import Karaoke.Proofs.Browser.Lists

/-!
# How often a list is fetched

A list is fetched only while it is not loaded, and is in progress from then on. Nothing but news
that it has changed or that a fetch of it has failed takes it back, so each such message pays for
one more fetch, whatever else is told or asked for.
-/

set_option autoImplicit false

namespace Karaoke

/-- Whether a message tells that a list has changed or that a fetch of it has failed. -/
def Message.reopens (name : String) : Message → Bool
  | .listChanged other | .listFailed other _ => other = name
  | _ => false

theorem Message.load?_eq_notLoaded_iff_reopens {m : Message} {name : String} :
    m.load? name = some .notLoaded ↔ m.reopens name = true := by
  cases m <;> simp [load?, reopens, eq_comm]

namespace Browser

/-- How many fetches of a list may be started until it is reopened. -/
def credit (b : Browser) (name : String) : Nat :=
  if b.lists.load name = .notLoaded then 1 else 0

variable {b : Browser} {m : Message} {name : String}

theorem credit_eq_zero_iff : b.credit name = 0 ↔ b.lists.load name ≠ .notLoaded := by
  unfold credit
  split <;> simp_all

theorem count_fetched (commands : List Command) (name : String) :
    (fetched commands).count name = commands.count (.fetchList name) := by
  rw [fetched, List.count_filterMap, List.count]
  apply List.countP_congr
  intro c _
  cases c <;> simp

/-! ## One message -/

/-- A list that a message finds not loaded was so before, or the message reopens it. -/
theorem reopens_or_notLoaded (missing : (m.load? name).getD (b.lists.load name) = .notLoaded) :
    m.reopens name = true ∨ b.lists.load name = .notLoaded := by
  cases news : m.load? name with
  | none =>
    rw [news] at missing
    exact .inr missing
  | some load =>
    rw [news] at missing
    cases missing
    exact .inl (Message.load?_eq_notLoaded_iff_reopens.mp news)

theorem count_update_add_credit_le (b : Browser) (m : Message) (name : String) :
    (b.update m).2.count (.fetchList name) + (b.update m).1.credit name ≤
      b.credit name + if m.reopens name then 1 else 0 := by
  have paid (missing : (m.load? name).getD (b.lists.load name) = .notLoaded) :
      1 ≤ b.credit name + if m.reopens name then 1 else 0 := by
    rcases reopens_or_notLoaded missing with reopened | before
    · rw [if_pos reopened]
      exact Nat.le_add_left 1 _
    · rw [credit, if_pos before]
      exact Nat.le_add_right 1 _
  rw [← count_fetched, count_fetched_update, credit, load_update]
  by_cases started : name ∈ fetched (b.update m).2
  · -- The list is in progress now and gives no credit.
    rw [if_pos started, if_pos started]
    exact paid (mem_fetched_update_iff.mp started).2
  · rw [if_neg started, if_neg started, Nat.zero_add]
    split
    · next missing => exact paid missing
    · exact Nat.zero_le _

theorem fetched_update_listFailed (b : Browser) (name error : String) :
    fetched (b.update (.listFailed name error)).2 = [] := by
  rw [fetched_update]
  rfl

/-- While a list is in progress or loaded, no message that leaves the query asking for it has any
list fetched. -/
theorem fetched_update_of_wanted (present : b.lists.load name ≠ .notLoaded)
    (other : m.reopens name = false) (wanted : (b.update m).1.parsed.list = some name) :
    fetched (b.update m).2 = [] := by
  apply List.eq_nil_iff_forall_not_mem.mpr
  intro started mem
  obtain ⟨asked, missing⟩ := mem_fetched_update_iff.mp mem
  obtain rfl : started = name := Option.some.inj ((wanted_of_asked asked).symm.trans wanted)
  rcases reopens_or_notLoaded missing with reopened | before
  · rw [other] at reopened
    cases reopened
  · exact present before

/-! ## Many messages -/

/-- What is fetched, and what may still be, is paid for by the credit that there was and by the
messages that reopen the list. -/
theorem count_outputs_add_credit_le (b : Browser) (ms : List Message) (name : String) :
    (b.outputs ms).count (.fetchList name) + (b.run ms).credit name ≤
      b.credit name + ms.countP (·.reopens name) := by
  induction ms generalizing b with
  | nil => simp [outputs]
  | cons m ms ih =>
    have first := count_update_add_credit_le b m name
    have later := ih (b.update m).1
    rw [outputs, run_cons, List.count_append, List.countP_cons]
    omega

/-- A list is fetched once, and once more at most for each time that it has changed or a fetch of it
has failed, whatever messages come and whether they answer anything or not. Neither the members of a
list nor a failed fetch have anything fetched. A list that is in progress or loaded stays so and is
not fetched until it is reopened, however often it is asked for, and what asks for it fetches no
other list. -/
theorem fetches_bounded (dice : Dice) (window : Option Int) (threshold : Option Threshold)
    (name : String) :
    (∀ ms, ((new dice window threshold).outputs ms).count (.fetchList name) ≤
      1 + ms.countP (·.reopens name)) ∧
    (∀ (b : Browser) (error : String), fetched (b.update (.listFailed name error)).2 = []) ∧
    (∀ (b : Browser) (members : NameSet), fetched (b.update (.listLoaded name members)).2 = []) ∧
    ∀ (b : Browser) (ms : List Message), b.lists.load name ≠ .notLoaded →
      (∀ m ∈ ms, m.reopens name = false) →
        (b.run ms).lists.load name ≠ .notLoaded ∧
        (b.outputs ms).count (.fetchList name) = 0 ∧
        ∀ m, m.reopens name = false → ((b.run ms).update m).1.parsed.list = some name →
          fetched ((b.run ms).update m).2 = [] := by
  refine ⟨?_, ?_, ?_, ?_⟩
  · intro ms
    have paid := count_outputs_add_credit_le (new dice window threshold) ms name
    have credit : (new dice window threshold).credit name = 1 := rfl
    omega
  · intro b error
    exact fetched_update_listFailed b name error
  · intro b members
    exact fetched_update_listLoaded b name members
  · intro b ms present others
    have paid := count_outputs_add_credit_le b ms name
    have unreopened : ms.countP (·.reopens name) = 0 := by
      apply List.countP_eq_zero.mpr
      intro m mem
      rw [others m mem]
      exact Bool.false_ne_true
    rw [credit_eq_zero_iff.mpr present, unreopened] at paid
    have kept : (b.run ms).lists.load name ≠ .notLoaded := credit_eq_zero_iff.mp (by omega)
    exact ⟨kept, by omega, fun m => fetched_update_of_wanted kept⟩

/-- A list that is asked for, failed, asked for again and changed is fetched three times. It is then
in progress, and is fetched no more by what asks for it. -/
theorem fetches_bounded_reopened :
    let b := new { roll := fun _ _ => 0 }
    let ms := [.search "list:Fans", .listFailed "Fans" "timeout", .search "list:Fans",
      .listChanged "Fans"]
    let later := [.search "list:Fans video:no", .toggleVideo, .shuffle]
    (b.outputs ms).count (.fetchList "Fans") = 3 ∧
      (b.outputs ms).count (.fetchList "Fans") ≤ 1 + ms.countP (·.reopens "Fans") ∧
      (b.run ms).lists.load "Fans" ≠ .notLoaded ∧
      ((b.run ms).outputs later).count (.fetchList "Fans") = 0 := by
  intro b ms later
  have present : (b.run ms).lists.load "Fans" ≠ .notLoaded := by decide +kernel
  have others : ∀ m ∈ later, m.reopens "Fans" = false := by decide
  obtain ⟨bounded, -, -, kept⟩ := fetches_bounded { roll := fun _ _ => 0 } none none "Fans"
  exact ⟨by decide +kernel, bounded ms, present, (kept (b.run ms) later present others).2.1⟩

end Browser

end Karaoke
