/-!
# Bytes as text

Reading bytes as UTF-8, strictly or leniently. The lenient reading replaces each longest prefix of
a valid sequence that breaks off, and each byte that begins none, by one replacement character.
-/
namespace TemplateSite.Text

/-- The text that bytes encode, if they are valid UTF-8. -/
def decode? (bytes : ByteArray) : Option String :=
  String.fromUTF8? bytes

/-- What may follow a leading byte: the bounds of the next byte and the number of bytes after it. -/
def continuation? (lead : UInt8) : Option (UInt8 × UInt8 × Nat) :=
  if 0xC2 ≤ lead && lead ≤ 0xDF then some (0x80, 0xBF, 0)
  else if lead == 0xE0 then some (0xA0, 0xBF, 1)
  else if lead == 0xED then some (0x80, 0x9F, 1)
  else if 0xE1 ≤ lead && lead ≤ 0xEF then some (0x80, 0xBF, 1)
  else if lead == 0xF0 then some (0x90, 0xBF, 2)
  else if 0xF1 ≤ lead && lead ≤ 0xF3 then some (0x80, 0xBF, 2)
  else if lead == 0xF4 then some (0x80, 0x8F, 2)
  else none

/-- The character that stands for bytes which encode none. -/
def replacement : Char := '\ufffd'

/-- Where the lenient reader stands: between characters, or within one, with the bounds of the next
byte, the number of bytes after that and the bits read so far. -/
inductive Utf8State where
  | between
  | within (low high : UInt8) (further : Nat) (bits : Nat)

def Utf8State.start (byte : UInt8) : List Char × Utf8State :=
  if byte < 0x80 then ([Char.ofNat byte.toNat], .between)
  else
    match continuation? byte with
    | none => ([replacement], .between)
    | some (low, high, further) =>
      let mask := if further == 0 then 0x1F else if further == 1 then 0x0F else 0x07
      ([], .within low high further (byte.toNat &&& mask))

def Utf8State.step : Utf8State → UInt8 → List Char × Utf8State
  | .between, byte => Utf8State.start byte
  | .within low high further bits, byte =>
    if low ≤ byte && byte ≤ high then
      let bits := bits * 64 + (byte.toNat &&& 0x3F)
      match further with
      | 0 => ([Char.ofNat bits], .between)
      | n + 1 => ([], .within 0x80 0xBF n bits)
    else
      let (chars, next) := Utf8State.start byte
      (replacement :: chars, next)

def decodeFrom (state : Utf8State) : List UInt8 → List Char
  | [] =>
    match state with
    | .between => []
    | .within .. => [replacement]
  | byte :: rest =>
    let (chars, next) := state.step byte
    chars ++ decodeFrom next rest

/-- The text that bytes encode, with a replacement character wherever they encode none. -/
def decodeLossy (bytes : ByteArray) : String :=
  String.ofList (decodeFrom .between bytes.toList)

end TemplateSite.Text
