import Aliquot.Fault

/-!
# Documents

A document is made of texts, integers, truth values and nothing, in lists and in objects whose
fields keep their order. It is written with one item or field on a line, two blanks further in than
what holds it; empty lists and objects take no lines.

Source: `_emit` in `bezout.cli`, which leaves the layout to the runtime.
-/

namespace Aliquot

/-- A structured result. -/
inductive Document where
  | null
  | bool (b : Bool)
  | int (k : Int)
  | text (s : String)
  | list (items : List Document)
  | object (fields : List (String × Document))

namespace Document

/-- A list of integers. -/
def ints (ks : List Int) : Document := .list (ks.map .int)

mutual

/-- An integer in the document is too long to be written. -/
def hasLong : Document → Bool
  | int k => Text.isLong k
  | list items => anyLong items
  | object fields => anyFieldLong fields
  | _ => false

/-- An integer in one of the items is too long to be written. -/
def anyLong : List Document → Bool
  | [] => false
  | item :: items => hasLong item || anyLong items

/-- An integer in one of the fields is too long to be written. -/
def anyFieldLong : List (String × Document) → Bool
  | [] => false
  | (_, value) :: fields => hasLong value || anyFieldLong fields

end

/-- One of two units of a code point beyond the first plane, or the code point itself. -/
def units16 (c : Char) : List Nat :=
  let n := c.toNat
  if n < 0x10000 then [n] else [0xd800 + (n - 0x10000) / 0x400, 0xdc00 + (n - 0x10000) % 0x400]

/-- A unit of 16 bits as an escape of four hexadecimal digits. -/
def escapeUnit (n : Nat) : String :=
  let digits := Nat.toDigits 16 n
  String.ofList ('\x5c' :: 'u' :: List.replicate (4 - digits.length) '0' ++ digits)

/-- A character as it is written in a text. Only printable characters of ASCII stand for
themselves. -/
def escape (c : Char) : String :=
  if c = '\x22' ∨ c = '\x5c' then String.ofList ['\x5c', c]
  else if c = '\n' then "\\n"
  else if c = '\r' then "\\r"
  else if c = '\t' then "\\t"
  else if c = '\x08' then "\\b"
  else if c = '\x0c' then "\\f"
  else if ' ' ≤ c ∧ c ≤ '~' then c.toString
  else String.join ((units16 c).map escapeUnit)

/-- A text between quotation marks. -/
def quote (s : String) : String := "\"" ++ String.join (s.toList.map escape) ++ "\""

/-- The start of a line at the given depth. -/
def newline (depth : Nat) : String := "\n" ++ String.ofList (List.replicate (2 * depth) ' ')

/-- Written parts between brackets, each on a line of its own one level deeper than `depth`. -/
def enclose (opening closing : String) (depth : Nat) : List String → String
  | [] => opening ++ closing
  | parts =>
    let separator := "," ++ newline (depth + 1)
    opening ++ newline (depth + 1) ++ separator.intercalate parts ++ newline depth ++ closing

mutual

/-- The text of a document that starts at the given depth. -/
def renderAt (depth : Nat) : Document → String
  | null => "null"
  | bool b => if b then "true" else "false"
  | int k => toString k
  | text s => quote s
  | list items => enclose "[" "]" depth (renderItems (depth + 1) [] items)
  | object fields => enclose "\x7b" "\x7d" depth (renderFields (depth + 1) [] fields)

/-- The texts of the items of a list, behind those of `done` in reverse. -/
def renderItems (depth : Nat) (done : List String) : List Document → List String
  | [] => done.reverse
  | item :: items => renderItems depth (renderAt depth item :: done) items

/-- The texts of the fields of an object, behind those of `done` in reverse. -/
def renderFields (depth : Nat) (done : List String) : List (String × Document) → List String
  | [] => done.reverse
  | (name, value) :: fields =>
    renderFields depth ((quote name ++ ": " ++ renderAt depth value) :: done) fields

end

/-- The text of a document. -/
def render (d : Document) : String := d.renderAt 0

/-- The document, unless an integer in it is too long to be written. -/
def writable (d : Document) : Answer Document :=
  if d.hasLong then .error (.tooLongToWrite Text.digitLimit) else .ok d

end Document

end Aliquot
