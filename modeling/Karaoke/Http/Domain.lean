import Karaoke.Http.Domain.Label
import Karaoke.Text.Punycode

/-!
# Domain names

A domain name is made of labels between dots. A label beyond ASCII is sent in an encoded form, and
an encoded label has to stand for one that is fit for a domain name.
-/

set_option autoImplicit false

namespace Karaoke.Http.Domain

open Text

/-- What an encoded label begins with. -/
def mark : List Char := ['x', 'n', '-', '-']

/-- The full stops of several scripts. -/
def isDot (c : Char) : Bool :=
  c == '.' || c == '\u3002' || c == '\uff0e' || c == '\uff61'

def isAscii (cs : List Char) : Bool :=
  cs.all (·.toNat < 0x80)

/-- A label if it is fit for a domain name. -/
def checked (label : List Char) : Except Fault (List Char) :=
  match fault? label with
  | some e => .error e
  | none => .ok label

/-- The label that an ASCII label stands for. -/
def decodeLabel (label : List Char) : Except Fault (List Char) :=
  let label := label.map Char.toLower
  if mark.isPrefixOf label then
    let rest := label.drop mark.length
    if rest = [] then .error .nothingEncoded
    else if rest.getLast? = some '-' then .error .encodedHyphen
    else match Punycode.decode? rest with
      | some decoded => checked decoded
      | none => .error .notEncoded
  else checked label

/-- A label as it is sent. -/
def encodeLabel (label : List Char) : Except Fault (List Char) := do
  let encoded ←
    if isAscii label then (decodeLabel label).map (fun _ => label)
    else (checked label).map (fun label => mark ++ Punycode.encode label)
  if 63 < encoded.length then .error .labelTooLong else .ok encoded

/-- A domain name whose labels are changed one by one. The last of them may be empty. -/
def mapLabels (f : List Char → Except Fault (List Char)) (cs : List Char) :
    Except Fault (List Char) := do
  if 254 < cs.length then .error .domainTooLong
  else if cs = [] then .error .emptyDomain
  else
    let labels := cs.splitOnP isDot
    let last := if labels.getLast? = some [] then [[]] else []
    let labels := labels.take (labels.length - last.length)
    let labels ← labels.mapM f
    .ok (['.'].intercalate (labels ++ last))

/-- A domain name as it is sent. -/
def encode (cs : List Char) : Except Fault (List Char) := do
  let out ← mapLabels encodeLabel cs
  if (if out.getLast? = some '.' then 254 else 253) < out.length then .error .domainTooLong
  else .ok out

/-- The domain name that an ASCII one stands for. -/
def decode (cs : List Char) : Except Fault (List Char) :=
  mapLabels decodeLabel cs

end Karaoke.Http.Domain
