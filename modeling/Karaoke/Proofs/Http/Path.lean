import Karaoke.Http.Url
import Karaoke.Proofs.Http.Percent
import Karaoke.Proofs.Text.Words

/-!
# Paths below a base

Segments of a path are pushed one by one, and only those that stand for a place are: `.` and `..`
leave fewer segments than there were. So a path is left as it is exactly if no segment of it is one
of those, and an address that was read has none.

An address below a base is read again with all that the base asks for in front of it. What it asks
for then is put together from the two, if no segment leads elsewhere.
-/

set_option autoImplicit false

namespace Karaoke.Http

/-- Whether a segment leads somewhere by a rule of its own: it stays where it is or goes back. -/
def IsDots (segment : List Char) : Prop :=
  segment = ['.'] ∨ segment = ['.', '.']

instance (segment : List Char) : Decidable (IsDots segment) :=
  inferInstanceAs (Decidable (_ ∨ _))

variable {path rest segment : List Char} {out segments : List (List Char)}

/-! ## Segments -/

theorem slash_notMem_of_mem_splitOn (mem : segment ∈ path.splitOn '/') : '/' ∉ segment := by
  intro slash
  have other := Text.false_of_mem_splitOnP mem _ slash
  simp at other

theorem follow_of_not_isDots (plain : ¬ IsDots segment) : follow out segment = segment :: out := by
  rw [IsDots, not_or] at plain
  rw [follow, if_neg plain.1, if_neg plain.2]

theorem follow_of_isDots (out : List (List Char)) (dots : IsDots segment) :
    follow out segment = out ∨ follow out segment = out.tail := by
  rcases dots with rfl | rfl
  · exact .inl rfl
  · rw [follow, if_neg (by decide), if_pos rfl]
    split
    · exact .inl rfl
    · exact .inr rfl

theorem length_follow_add_le (out : List (List Char)) (segment : List Char) :
    (follow out segment).length + (if IsDots segment then 1 else 0) ≤ out.length + 1 := by
  by_cases dots : IsDots segment
  · rw [if_pos dots]
    have shorter : (follow out segment).length ≤ out.length := by
      rcases follow_of_isDots out dots with same | back
      · exact Nat.le_of_eq (congrArg List.length same)
      · rw [back, List.length_tail]
        omega
    omega
  · rw [if_neg dots, follow_of_not_isDots dots]
    exact Nat.le_refl _

theorem length_foldl_follow_add_le (out segments : List (List Char)) :
    (segments.foldl follow out).length + segments.countP (IsDots ·) ≤
      out.length + segments.length := by
  induction segments generalizing out with
  | nil => exact Nat.le_refl _
  | cons segment segments ih =>
    have first := length_follow_add_le out segment
    have others := ih (follow out segment)
    rw [List.foldl_cons, List.countP_cons, List.length_cons]
    simp only [decide_eq_true_eq]
    omega

theorem foldl_follow (plain : ∀ segment ∈ segments, ¬ IsDots segment) :
    segments.foldl follow out = segments.reverse ++ out := by
  induction segments generalizing out with
  | nil => rfl
  | cons segment segments ih =>
    rw [List.forall_mem_cons] at plain
    rw [List.foldl_cons, follow_of_not_isDots plain.1, ih plain.2]
    simp

theorem mem_of_mem_follow {s : List Char} (mem : s ∈ follow out segment) :
    s ∈ out ∨ s = segment ∧ ¬ IsDots segment := by
  by_cases dots : IsDots segment
  · rcases follow_of_isDots out dots with same | back
    · exact .inl (same ▸ mem)
    · exact .inl (List.mem_of_mem_tail (back ▸ mem))
  · rw [follow_of_not_isDots dots, List.mem_cons] at mem
    rcases mem with rfl | mem
    · exact .inr ⟨rfl, dots⟩
    · exact .inl mem

theorem mem_of_mem_foldl_follow {s : List Char} (mem : s ∈ segments.foldl follow out) :
    s ∈ out ∨ s ∈ segments ∧ ¬ IsDots s := by
  induction segments generalizing out with
  | nil => exact .inl mem
  | cons segment segments ih =>
    rcases ih mem with here | ⟨later, plain⟩
    · rcases mem_of_mem_follow here with before | ⟨rfl, plain⟩
      · exact .inl before
      · exact .inr ⟨List.mem_cons_self, plain⟩
    · exact .inr ⟨List.mem_cons_of_mem _ later, plain⟩

/-- The segments that are left of a path. -/
def settled (path : List Char) : List (List Char) :=
  ((path.splitOn '/').foldl follow []).reverse

theorem removeDots_eq (path : List Char) : removeDots path = ['/'].intercalate (settled path) :=
  rfl

theorem mem_settled {s : List Char} (mem : s ∈ settled path) :
    s ∈ path.splitOn '/' ∧ ¬ IsDots s := by
  rcases mem_of_mem_foldl_follow (List.mem_reverse.mp mem) with none | found
  · cases none
  · exact found

/-- A path whose segments are some text without slashes, if there are any. -/
theorem splitOn_intercalate_cases {xs : List (List Char)} (whole : ∀ x ∈ xs, '/' ∉ x) :
    (['/'].intercalate xs).splitOn '/' = if xs = [] then [[]] else xs := by
  split
  · next none =>
    subst none
    rfl
  · next some => exact List.splitOn_intercalate '/' whole some

/-- A path is left as it is exactly if all its segments stand for places. -/
theorem removeDots_eq_self_iff :
    removeDots path = path ↔ ∀ segment ∈ path.splitOn '/', ¬ IsDots segment := by
  constructor
  · intro same segment mem dots
    have fewer : (settled path).length < (path.splitOn '/').length := by
      have left := length_foldl_follow_add_le [] (path.splitOn '/')
      have some : 0 < (path.splitOn '/').countP (IsDots ·) :=
        List.countP_pos_iff.mpr ⟨segment, mem, decide_eq_true dots⟩
      rw [List.length_nil] at left
      rw [settled, List.length_reverse]
      omega
    have split : path.splitOn '/' = if settled path = [] then [[]] else settled path := by
      rw [← splitOn_intercalate_cases fun x mem => slash_notMem_of_mem_splitOn (mem_settled mem).1,
        ← removeDots_eq, same]
    split at split
    · rw [split, List.mem_singleton] at mem
      subst mem
      revert dots
      decide
    · rw [split] at fewer
      exact absurd fewer (Nat.lt_irrefl _)
  · intro plain
    rw [removeDots, foldl_follow plain, List.append_nil, List.reverse_reverse]
    exact List.intercalate_splitOn '/'

theorem removeDots_append_iff :
    removeDots (path ++ '/' :: rest) = path ++ '/' :: rest ↔
      removeDots path = path ∧ ∀ segment ∈ rest.splitOn '/', ¬ IsDots segment := by
  rw [removeDots_eq_self_iff, List.splitOn_append_cons_self, List.forall_mem_append,
    ← removeDots_eq_self_iff]

theorem removeDots_cons_iff :
    removeDots ('/' :: rest) = '/' :: rest ↔ ∀ segment ∈ rest.splitOn '/', ¬ IsDots segment := by
  have none : removeDots [] = [] := by decide
  have front : removeDots ([] ++ '/' :: rest) = [] ++ '/' :: rest ↔ _ := removeDots_append_iff
  rw [List.nil_append] at front
  rw [front, and_iff_right none]

/-! ## Addresses in their written form -/

namespace Url

open Percent (isUnreserved keeping)

theorem isPathChar_of_isUnreserved {c : Char} (unreserved : isUnreserved c = true) :
    isPathChar c = true :=
  Percent.forall_unreserved (by decide +kernel) unreserved

theorem isQueryChar_of_isUnreserved {c : Char} (unreserved : isUnreserved c = true) :
    isQueryChar c = true :=
  Percent.forall_unreserved (by decide +kernel) unreserved

/-- Characters that stand for themselves in a path and in a query alike, and in no place mark the
beginning of another part. -/
def IsSimple (cs : List Char) : Prop :=
  ∀ c ∈ cs, isUnreserved c = true ∨ c = '%' ∨ c = '/'

theorem IsSimple.all {cs : List Char} (simple : IsSimple cs) {p : Char → Bool}
    (unreserved : ∀ c, isUnreserved c = true → p c = true) (percent : p '%' = true)
    (slash : p '/' = true) : ∀ c ∈ cs, p c = true := by
  intro c mem
  rcases simple c mem with kept | rfl | rfl
  · exact unreserved c kept
  · exact percent
  · exact slash

theorem IsSimple.isPathChar {cs : List Char} (simple : IsSimple cs) :
    ∀ c ∈ cs, isPathChar c = true :=
  simple.all (fun _ => isPathChar_of_isUnreserved) (by decide) (by decide)

theorem IsSimple.isQueryChar {cs : List Char} (simple : IsSimple cs) :
    ∀ c ∈ cs, isQueryChar c = true :=
  simple.all (fun _ => isQueryChar_of_isUnreserved) (by decide) (by decide)

theorem IsSimple.notMem {cs : List Char} (simple : IsSimple cs) {mark : Char}
    (other : isUnreserved mark = false ∧ mark ≠ '%' ∧ mark ≠ '/') : mark ∉ cs := by
  intro mem
  rcases simple mark mem with kept | percent | slash
  · rw [other.1] at kept
    cases kept
  · exact other.2.1 percent
  · exact other.2.2 slash

/-- What is written of a class that has the unreserved characters and the percent sign is of that
class. -/
theorem forall_mem_keeping {isKept : Char → Bool} {cs : List Char}
    (unreserved : ∀ c, isUnreserved c = true → isKept c = true) (percent : isKept '%' = true) :
    ∀ c ∈ keeping isKept cs, isKept c = true := by
  intro c mem
  rcases Percent.mem_of_mem_keeping mem with ⟨kept, -⟩ | other | rfl
  · exact kept
  · exact unreserved c other
  · exact percent

theorem isPathChar_of_mem_keeping {cs : List Char} :
    ∀ c ∈ keeping isPathChar cs, isPathChar c = true :=
  forall_mem_keeping (fun _ => isPathChar_of_isUnreserved) (by decide)

theorem isQueryChar_of_mem_keeping {cs : List Char} :
    ∀ c ∈ keeping isQueryChar cs, isQueryChar c = true :=
  forall_mem_keeping (fun _ => isQueryChar_of_isUnreserved) (by decide)

/-- No segment comes to lead elsewhere when its path is written. -/
theorem removeDots_keeping_removeDots (path : List Char) :
    removeDots (keeping isPathChar (removeDots path)) = keeping isPathChar (removeDots path) := by
  have slash : isPathChar '/' = true := by decide
  have whole : ∀ s ∈ (settled path).map (keeping isPathChar), '/' ∉ s := by
    rw [List.forall_mem_map]
    intro s mem inside
    rcases Percent.mem_of_mem_keeping inside with ⟨-, inside⟩ | unreserved | percent
    · exact slash_notMem_of_mem_splitOn (mem_settled mem).1 inside
    · exact absurd unreserved (by decide)
    · exact absurd percent (by decide)
  rw [removeDots_eq_self_iff, removeDots_eq, Percent.keeping_intercalate slash,
    splitOn_intercalate_cases whole]
  split
  · decide
  · rw [List.forall_mem_map]
    intro s mem dots
    refine (mem_settled mem).2 ?_
    rcases dots with one | two
    · exact .inl (Percent.eq_of_keeping_eq (by decide) one)
    · exact .inr (Percent.eq_of_keeping_eq (by decide) two)

/-- Whether an address has neither scheme nor authority. -/
def IsBare (u : Url) : Prop :=
  u.scheme = [] ∧ u.authority = []

/-- What reading leaves of the path and the query. The dots of a bare path stay. -/
theorem exists_of_ofParts {p : Parts} {a : Authority} {u : Url} (read : ofParts p a = .ok u) :
    u.scheme = p.scheme.map Char.toLower ∧ u.query = p.query.map (keeping isQueryChar) ∧
      ∃ path, u.path = keeping isPathChar path ∧
        (path = removeDots p.path ∧ ¬ (p.scheme = [] ∧ a = ⟨[], [], []⟩) ∨
          path = p.path ∧ u.IsBare) := by
  unfold ofParts at read
  dsimp only at read
  cases host : readHost a.host with
  | error f => simp [host, bind, Except.bind] at read
  | ok host' =>
    cases socket : readSocket (p.scheme.map Char.toLower) a.socket with
    | error f => simp [host, socket, bind, Except.bind] at read
    | ok socket' =>
      simp only [host, socket, bind, Except.bind] at read
      split at read
      · cases read
      · cases read
        refine ⟨rfl, rfl, _, rfl, ?_⟩
        split
        · next absolute =>
          refine .inl ⟨rfl, ?_⟩
          rintro ⟨scheme, rfl⟩
          cases host
          cases socket
          simp [scheme] at absolute
        · next bare =>
          simp only [not_or, Classical.not_not] at bare
          obtain ⟨scheme, user, rfl, rfl⟩ := bare
          refine .inr ⟨rfl, scheme, ?_⟩
          simp only [authority, user, location, hostText]
          rfl

/-- An address as reading gives it: what stands in path and query stands for itself, and the path
has no dots unless the address is bare. -/
structure Normal (u : Url) : Prop where
  path : ∀ c ∈ u.path, isPathChar c = true
  query : ∀ q, u.query = some q → ∀ c ∈ q, isQueryChar c = true
  settled : u.IsBare ∨ removeDots u.path = u.path

theorem Normal.of_ofParts {p : Parts} {a : Authority} {u : Url} (read : ofParts p a = .ok u) :
    u.Normal := by
  obtain ⟨-, query, path, written, whence⟩ := exists_of_ofParts read
  refine ⟨written ▸ isPathChar_of_mem_keeping, ?_, ?_⟩
  · intro q here
    rw [query, Option.map_eq_some_iff] at here
    obtain ⟨cs, -, rfl⟩ := here
    exact isQueryChar_of_mem_keeping
  · rcases whence with ⟨rfl, -⟩ | ⟨-, bare⟩
    · exact .inr (written ▸ removeDots_keeping_removeDots p.path)
    · exact .inl bare

theorem Normal.of_parse {cs : List Char} {u : Url} (read : parse cs = .ok u) : u.Normal := by
  unfold parse at read
  split at read
  · cases read
  · split at read
    · cases read
    · exact .of_ofParts read

theorem Normal.of_withTarget {base u : Url} {target : List Char}
    (read : base.withTarget target = .ok u) : u.Normal := by
  unfold withTarget reread at read
  dsimp only at read
  split at read
  · cases read
  · exact .of_ofParts read

/-! ## What an address asks for -/

/-- The path that an address asks for. -/
def place (u : Url) : List Char :=
  if u.path = [] then ['/'] else u.path

theorem target_eq (u : Url) : u.target = u.place ++ marked '?' u.query :=
  rfl

theorem place_ne_nil (u : Url) : u.place ≠ [] := by
  unfold place
  split
  · exact List.cons_ne_nil _ _
  · assumption

theorem Normal.isPathChar_place {u : Url} (normal : u.Normal) :
    ∀ c ∈ u.place, isPathChar c = true := by
  unfold place
  split
  · exact List.forall_mem_singleton.mpr (by decide)
  · exact normal.path

theorem Normal.settled_place {u : Url} (normal : u.Normal) :
    u.IsBare ∨ removeDots u.place = u.place := by
  unfold place
  split
  · exact .inr (by decide)
  · exact normal.settled

theorem question_notMem {cs : List Char} (all : ∀ c ∈ cs, isPathChar c = true) : '?' ∉ cs :=
  fun mem => absurd (all '?' mem) (by decide)

theorem cut_marked {mark : Char} {cs : List Char} (other : mark ∉ cs) (part : Option (List Char)) :
    Text.cut mark (cs ++ marked mark part) = (cs, part) := by
  cases part with
  | none => simp [Text.cut, marked, Text.cut?_eq_none_iff.mpr other]
  | some ds => simp [Text.cut, marked, Text.cut?_append other]

/-- What asking for something else leaves of the path and the query that are asked for. -/
theorem exists_of_withTarget {base u : Url} {path : List Char} {query : Option (List Char)}
    (all : ∀ c ∈ path, isPathChar c = true)
    (read : base.withTarget (path ++ marked '?' query) = .ok u) :
    u.scheme = base.scheme.map Char.toLower ∧ u.query = query.map (keeping isQueryChar) ∧
      ∃ written, u.path = keeping isPathChar written ∧
        (written = removeDots path ∧ ¬ base.IsBare ∨ written = path ∧ u.IsBare) := by
  unfold withTarget reread at read
  rw [cut_marked (question_notMem all)] at read
  dsimp only at read
  split at read
  · cases read
  · obtain ⟨scheme, query', written, path', whence⟩ := exists_of_ofParts read
    refine ⟨scheme, query', written, path', whence.imp_left ?_⟩
    rintro ⟨removed, absolute⟩
    refine ⟨removed, fun bare => absolute ⟨bare.1, ?_⟩⟩
    simp only [parts, bare.2]
    rfl

variable {base u : Url} {rest : List Char}

theorem target_of_path {path : List Char} (some : path ≠ []) (same : u.path = path) :
    u.target = path ++ marked '?' u.query := by
  rw [target_eq, place, same, if_neg some]

/-- An address that asks for more than another asks for what that one does and for the rest of it,
if nothing that was added leads elsewhere. -/
theorem target_withTarget (normal : base.Normal) (simple : IsSimple rest)
    (stays : base.query = none → base.IsBare ∨ removeDots (base.place ++ rest) = base.place ++ rest)
    (read : base.withTarget (base.target ++ rest) = .ok u) : u.target = base.target ++ rest := by
  cases asked : base.query with
  | none =>
    have written : ∀ c ∈ base.place ++ rest, isPathChar c = true :=
      List.forall_mem_append.mpr ⟨normal.isPathChar_place, simple.isPathChar⟩
    have joined : base.target ++ rest = (base.place ++ rest) ++ marked '?' none := by
      simp [target_eq, asked, marked]
    rw [joined] at read ⊢
    obtain ⟨-, query, path, kept, whence⟩ := exists_of_withTarget written read
    have same : path = base.place ++ rest := by
      rcases whence with ⟨removed, absolute⟩ | ⟨same, -⟩
      · exact removed.trans ((stays asked).resolve_left absolute)
      · exact same
    rw [same, Percent.keeping_of_all written] at kept
    rw [target_of_path (by simp [base.place_ne_nil]) kept, query, Option.map_none]
  | some q =>
    have written : ∀ c ∈ q ++ rest, isQueryChar c = true :=
      List.forall_mem_append.mpr ⟨normal.query q asked, simple.isQueryChar⟩
    have joined : base.target ++ rest = base.place ++ marked '?' (some (q ++ rest)) := by
      simp [target_eq, asked, marked]
    rw [joined] at read ⊢
    obtain ⟨-, query, path, kept, whence⟩ := exists_of_withTarget normal.isPathChar_place read
    have same : path = base.place := by
      rcases whence with ⟨removed, absolute⟩ | ⟨same, -⟩
      · exact removed.trans (normal.settled_place.resolve_left absolute)
      · exact same
    rw [same, Percent.keeping_of_all normal.isPathChar_place] at kept
    rw [target_of_path base.place_ne_nil kept, query, Option.map_some,
      Percent.keeping_of_all written]

/-- Below a scheme and without a query it is so for nothing else. -/
theorem removeDots_of_target_withTarget (normal : base.Normal) (simple : IsSimple rest)
    (scheme : base.scheme ≠ []) (asked : base.query = none)
    (read : base.withTarget (base.target ++ rest) = .ok u) (same : u.target = base.target ++ rest) :
    removeDots (base.place ++ rest) = base.place ++ rest := by
  have written : ∀ c ∈ base.place ++ rest, isPathChar c = true :=
    List.forall_mem_append.mpr ⟨normal.isPathChar_place, simple.isPathChar⟩
  have joined : base.target ++ rest = (base.place ++ rest) ++ marked '?' none := by
    simp [target_eq, asked, marked]
  rw [joined] at read same
  obtain ⟨scheme', query, -⟩ := exists_of_withTarget written read
  have absolute : ¬ u.IsBare := fun bare => scheme (by simpa [bare.1] using scheme'.symm)
  have place : u.place = base.place ++ rest := by
    simpa [target_eq, query, marked] using same
  rw [← place]
  exact (Normal.of_withTarget read).settled_place.resolve_left absolute

/-! ## Addresses below a base -/

/-- An address below which others lie: what it asks for ends in a slash. -/
structure IsBase (u : Url) : Prop extends Normal u where
  slash : u.target.getLast? = some '/'

theorem Normal.isBase_of_asBase (normal : u.Normal) (made : u.asBase = .ok base) :
    base.IsBase := by
  unfold asBase at made
  split at made
  · next slash =>
    cases made
    exact ⟨normal, slash⟩
  · have simple : IsSimple ['/'] := by
      intro c mem
      exact .inr (.inr (List.mem_singleton.mp mem))
    have stays : u.IsBare ∨ removeDots (u.place ++ ['/']) = u.place ++ ['/'] := by
      refine normal.settled_place.imp_right fun settled => ?_
      exact removeDots_append_iff.mpr ⟨settled, by decide⟩
    have target : base.target = u.target ++ ['/'] :=
      target_withTarget normal simple (fun _ => stays) made
    refine ⟨.of_withTarget made, ?_⟩
    rw [target, List.getLast?_append]
    rfl

/-- Where an address without a query ends in a slash, its path does. -/
theorem IsBase.exists_place (isBase : base.IsBase) (asked : base.query = none) :
    ∃ path, base.place = path ++ ['/'] ∧ (base.IsBare ∨ removeDots path = path) := by
  have slash := isBase.slash
  rw [target_eq, asked, marked, List.append_nil] at slash
  obtain ⟨path, place⟩ := List.getLast?_eq_some_iff.mp slash
  refine ⟨path, place, isBase.settled_place.imp_right fun settled => ?_⟩
  rw [place, removeDots_append_iff] at settled
  exact settled.1

theorem IsSimple.cons_slash (simple : IsSimple rest) : IsSimple ('/' :: rest) :=
  List.forall_mem_cons.mpr ⟨.inr (.inr rfl), simple⟩

theorem ofText_cons_slash (simple : IsSimple rest) (head : rest.head? ≠ some '/') :
    Parts.ofText ('/' :: rest) = ⟨[], [], '/' :: rest, none, none⟩ := by
  have cut (mark : Char) (other : isUnreserved mark = false ∧ mark ≠ '%' ∧ mark ≠ '/') :
      Text.cut? mark ('/' :: rest) = none :=
    Text.cut?_eq_none_iff.mpr (simple.cons_slash.notMem other)
  have authority : cutAuthority ('/' :: rest) = ([], '/' :: rest) := by
    cases rest with
    | nil => rfl
    | cons c cs =>
      have other : c ≠ '/' := fun same => head (congrArg some same)
      rw [cutAuthority]
      rintro _ ⟨⟩
      exact other rfl
  rw [Parts.ofText, cutScheme, cut ':' (by decide)]
  simp only [authority, Text.cut, cut '#' (by decide), cut '?' (by decide)]

/-- A path is an address that leaves open where it leads. -/
theorem target_of_parse (simple : IsSimple rest) (head : rest.head? ≠ some '/')
    (read : parse ('/' :: rest) = .ok u) : u.target = '/' :: rest ∧ u.isRelative = true := by
  unfold parse at read
  rw [ofText_cons_slash simple head] at read
  split at read
  · cases read
  split at read
  · cases read
  · obtain ⟨scheme, query, path, written, whence⟩ := exists_of_ofParts read
    have same : path = '/' :: rest := by
      rcases whence with ⟨-, absolute⟩ | ⟨same, -⟩
      · exact absurd ⟨rfl, rfl⟩ absolute
      · exact same
    rw [same, Percent.keeping_of_all simple.cons_slash.isPathChar] at written
    constructor
    · rw [target_of_path (List.cons_ne_nil _ _) written, query, Option.map_none, marked,
        List.append_nil]
    · simp [isRelative, scheme]

theorem withTarget_of_below (simple : IsSimple rest) (head : rest.head? ≠ some '/')
    (read : base.below ('/' :: rest) = .ok u) : base.withTarget (base.target ++ rest) = .ok u := by
  unfold below at read
  cases path : parse ('/' :: rest) with
  | error f => simp [path, bind, Except.bind] at read
  | ok v =>
    obtain ⟨target, relative⟩ := target_of_parse simple head path
    have trimmed : ('/' :: rest).dropWhile (· = '/') = rest := by
      cases rest with
      | nil => rfl
      | cons c cs =>
        have other : c ≠ '/' := fun same => head (congrArg some same)
        simp [other]
    simpa only [path, bind, Except.bind, relative, if_true, target, trimmed] using read

/-- A path below a base is asked for where the base ends if it has no dots. -/
theorem IsBase.target_below (isBase : base.IsBase) (simple : IsSimple rest)
    (head : rest.head? ≠ some '/') (read : base.below ('/' :: rest) = .ok u)
    (settled : removeDots ('/' :: rest) = '/' :: rest) : u.target = base.target ++ rest := by
  refine target_withTarget isBase.toNormal simple (fun asked => ?_)
    (withTarget_of_below simple head read)
  obtain ⟨path, place, whence⟩ := isBase.exists_place asked
  refine whence.imp_right fun first => ?_
  rw [place, List.append_assoc]
  exact removeDots_append_iff.mpr ⟨first, removeDots_cons_iff.mp settled⟩

theorem IsBase.removeDots_of_target_below (isBase : base.IsBase) (simple : IsSimple rest)
    (head : rest.head? ≠ some '/') (scheme : base.scheme ≠ []) (asked : base.query = none)
    (read : base.below ('/' :: rest) = .ok u) (same : u.target = base.target ++ rest) :
    removeDots ('/' :: rest) = '/' :: rest := by
  have settled := removeDots_of_target_withTarget isBase.toNormal simple scheme asked
    (withTarget_of_below simple head read) same
  obtain ⟨path, place, -⟩ := isBase.exists_place asked
  rw [place, List.append_assoc] at settled
  exact removeDots_cons_iff.mpr (removeDots_append_iff.mp settled).2

end Url

end Karaoke.Http
