/-!
# JSON documents

A document is laid out by a `Layout`: what starts each line of a list or record, by depth, and what
stands between a key and its value. The compact layout adds nothing; the pretty one starts a line
for each entry, two blanks in per level, and puts a blank after the colon. An empty list or record
has nothing between its brackets in any layout.
-/

namespace AluBench

/-- Texts are names from fixed lists: letters only, so they are quoted as they stand. -/
inductive Json where
  | number (n : Nat)
  | bool (b : Bool)
  | name (text : String)
  | list (items : List Json)
  | record (fields : List (String × Json))
  deriving Repr, Inhabited

namespace Json

structure Layout where
  /-- What stands before an entry at a depth, and before the bracket that closes it. -/
  lineStart : Nat → List Char
  /-- What stands between a key and its value. -/
  colon : List Char

def Layout.compact : Layout := ⟨fun _ => [], [':']⟩

def Layout.pretty : Layout := ⟨fun depth => '\n' :: List.replicate (2 * depth) ' ', [':', ' ']⟩

def quoted (text : String) : List Char := '"' :: text.toList ++ ['"']

mutual

/-- A document whose first character stands at `depth`. -/
def chars (layout : Layout) (depth : Nat) : Json → List Char
  | number n => Nat.toDigits 10 n
  | bool b => if b then "true".toList else "false".toList
  | name text => quoted text
  | list [] => ['[', ']']
  | list (item :: items) =>
    '[' :: layout.lineStart (depth + 1) ++ chars layout (depth + 1) item
      ++ itemChars layout (depth + 1) items ++ layout.lineStart depth ++ [']']
  | record [] => ['\x7b', '\x7d']
  | record ((key, value) :: fields) =>
    '\x7b' :: layout.lineStart (depth + 1) ++ quoted key ++ layout.colon
      ++ chars layout (depth + 1) value
      ++ fieldChars layout (depth + 1) fields ++ layout.lineStart depth ++ ['\x7d']

/-- The items after the first of a list, each behind a comma. -/
def itemChars (layout : Layout) (depth : Nat) : List Json → List Char
  | [] => []
  | item :: items =>
    ',' :: layout.lineStart depth ++ chars layout depth item ++ itemChars layout depth items

/-- The fields after the first of a record, each behind a comma. -/
def fieldChars (layout : Layout) (depth : Nat) : List (String × Json) → List Char
  | [] => []
  | (key, value) :: fields =>
    ',' :: layout.lineStart depth ++ quoted key ++ layout.colon ++ chars layout depth value
      ++ fieldChars layout depth fields

end

/-- The document on one line, without blanks. -/
def compact (doc : Json) : String := String.ofList (doc.chars .compact 0)

/-- The document with a line for each entry. -/
def pretty (doc : Json) : String := String.ofList (doc.chars .pretty 0)

end Json

end AluBench
