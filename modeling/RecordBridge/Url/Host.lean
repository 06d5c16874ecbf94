import RecordBridge.Url.Address
import RecordBridge.Url.Label
import RecordBridge.Url.Percent

/-
  Hosts — the normal form of the host of a URL.

  The host of a special scheme is an address or a domain name. A name may have
  escapes, capitals and characters beyond ASCII; its normal form is plain ASCII
  in lower case, and a name that ends in a number must be an IPv4 address. Other
  schemes take the host as it is written.
-/

namespace RecordBridge.Host

/-! ### Characters -/

/-- Whether no host may hold a character. -/
def isForbidden (c : Char) : Bool :=
  [0, 9, 10, 13].contains c.toNat ||
    [' ', '#', '/', ':', '<', '>', '?', '@', '[', '\\', ']', '^', '|'].contains c

/-- Whether no domain name may hold a character. -/
def isForbiddenInName (c : Char) : Bool :=
  isForbidden c || c.toNat < 0x20 || c = '%' || c = Char.ofNat 0x7F

/-! ### Names -/

/-- The characters that a name is written with; bytes that are no text have none. -/
def characters? (text : List Char) : Option (List Char) :=
  let chars := Utf8.decodeLossy (Percent.decode text)
  if chars.any (·.toNat = 0xFFFD) then none else some chars

/-- The normal form of a domain name. -/
def name? (text : List Char) : Option (List Char) := do
  let chars ← NameForm.formed? (← characters? text)
  let labels ← (Pieces.split '.' chars).mapM Label.ofChars?
  let name := ['.'].intercalate (labels.map Label.ascii)
  if name.any isForbiddenInName ∨ !Label.areDirected labels then none else some name

/-! ### Hosts -/

/-- An IPv6 address in brackets. -/
def bracketed? (text : List Char) : Option String :=
  if 2 ≤ text.length ∧ text.getLast? = some ']' then
    (Address.ipv6? (text.drop 1).dropLast).map fun groups => "[" ++ Address.ipv6Text groups ++ "]"
  else none

/-- The host of a special scheme. -/
def special? (text : List Char) : Option String :=
  if text.head? = some '[' then bracketed? text
  else do
    let name ← name? text
    if name.isEmpty then none
    else if Address.endsInNumber name then (Address.ipv4? name).map Address.ipv4Text
    else some (String.ofList name)

/-- The host of any other scheme; it may be empty. -/
def plain? (text : List Char) : Option String :=
  if text.head? = some '[' then bracketed? text
  else if text.any isForbidden then none
  else some (String.ofList (Percent.encode Percent.inControls text))

end RecordBridge.Host
