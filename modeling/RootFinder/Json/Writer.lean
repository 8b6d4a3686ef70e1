import RootFinder.Decimal.Display
import RootFinder.Json
import RootFinder.Text.Quoted

/-! JSON as text, in ASCII. Members and items stand one to a line, two blanks deeper than what
holds them, or all on one line. -/
namespace RootFinder.Json

namespace Writer

/-- A character beyond the basic plane is written as two sixteen-bit units. -/
def units (c : Char) : List Nat :=
  if c.toNat < 0x10000 then [c.toNat]
  else [0xD800 + (c.toNat - 0x10000) / 0x400, 0xDC00 + (c.toNat - 0x10000) % 0x400]

def escape (c : Char) : List Char :=
  match c with
  | '"' => ['\\', '"']
  | '\\' => ['\\', '\\']
  | '\n' => ['\\', 'n']
  | '\r' => ['\\', 'r']
  | '\t' => ['\\', 't']
  | '\x08' => ['\\', 'b']
  | '\x0C' => ['\\', 'f']
  | c =>
    if 0x20 ≤ c.toNat ∧ c.toNat < 0x7F then [c]
    else (units c).flatMap fun n => '\\' :: 'u' :: Text.Quoted.hex 4 n

def string (s : String) : String :=
  String.ofList ('"' :: s.toList.flatMap escape ++ ['"'])

/-- Line breaks and indentation, or neither. -/
inductive Layout
  | lines
  | line
deriving DecidableEq

/-- What stands before an item `depth` levels down. -/
def Layout.indent : Layout → Nat → String
  | .lines, depth => "\n" ++ String.ofList (List.replicate (2 * depth) ' ')
  | .line, _ => ""

def Layout.comma : Layout → String
  | .lines => ","
  | .line => ", "

/-- Items between brackets; nothing between them when there are none. -/
def enclose (layout : Layout) (depth : Nat) (opening closing : String) (items : List String) :
    String :=
  if items.isEmpty then opening ++ closing
  else
    opening ++ layout.indent (depth + 1) ++
      (layout.comma ++ layout.indent (depth + 1)).intercalate items ++
      layout.indent depth ++ closing

end Writer

open Writer

mutual

def writeAt (layout : Layout) (depth : Nat) : Json → String
  | .null => "null"
  | .bool b => if b then "true" else "false"
  | .int n => toString n
  | .float x => Decimal.documents.text x
  | .string s => Writer.string s
  | .array items => enclose layout depth "[" "]" (writeItems layout (depth + 1) items)
  | .object members =>
    enclose layout depth "\x7b" "\x7d" (writeMembers layout (depth + 1) members)

def writeItems (layout : Layout) (depth : Nat) : List Json → List String
  | [] => []
  | item :: rest => writeAt layout depth item :: writeItems layout depth rest

def writeMembers (layout : Layout) (depth : Nat) : List (String × Json) → List String
  | [] => []
  | (name, value) :: rest =>
    (Writer.string name ++ ": " ++ writeAt layout depth value) :: writeMembers layout depth rest

end

/-- One item to a line. -/
def pretty (j : Json) : String := writeAt .lines 0 j

/-- Everything on one line. -/
def compact (j : Json) : String := writeAt .line 0 j

end RootFinder.Json
