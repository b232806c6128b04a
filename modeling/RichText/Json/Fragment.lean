import RichText.Json.Parser

/-!
# What can be read of a text that is not JSON

A reader that works through a text from left to right may find a fault in what it has read before it
meets the place where the text breaks off. `Fragment` holds what such a reader has in hand at that
place: the items or members that are complete, and how the one after them begins.
-/

namespace RichText.Json

/-- How a value that cannot be read begins. -/
inductive Opening where
  | array
  | object
  | other
deriving DecidableEq

/-- The readable part of a text that is not JSON. -/
inductive Fragment where
  /-- An array: the complete items, and how the next one begins. -/
  | array (items : List Json) (next : Opening)
  /-- An object: the complete members, the name of the next one if it is complete, and how that
  member's value begins. -/
  | object (members : List (String × Json)) (key : Option String) (next : Opening)
  /-- A text that breaks off elsewhere. -/
  | other

namespace Fragment

open RichText.Json.Parser

/-- How the text begins after blanks. -/
def opening (s : List Char) : Opening :=
  match skipBlanks s with
  | '[' :: _ => .array
  | '\x7b' :: _ => .object
  | _ => .other

/-- The complete items of an array, and how the next one begins. Nothing is left once the array has
ended or an item is followed by neither a comma nor a bracket. -/
def items (item : List Char → Read Json) : Nat → List Char → List Json × Opening
  | 0, _ => ([], .other)
  | fuel + 1, s =>
    match item s with
    | none => ([], opening s)
    | some (v, rest) =>
      match skipBlanks rest with
      | ',' :: rest =>
        let (vs, next) := items item fuel rest
        (v :: vs, next)
      | _ => ([v], .other)

/-- The complete members of an object, the name of the next one, and how its value begins. -/
def members (item : List Char → Read Json) : Nat → List Char →
    List (String × Json) × Option String × Opening
  | 0, _ => ([], none, .other)
  | fuel + 1, s =>
    match member item s with
    | some (m, rest) =>
      match skipBlanks rest with
      | ',' :: rest =>
        let (ms, key, next) := members item fuel rest
        (m :: ms, key, next)
      | _ => ([m], none, .other)
    | none =>
      match skipBlanks s with
      | '"' :: rest =>
        match textBody [] rest with
        | none => ([], none, .other)
        | some (key, rest) =>
          match skipBlanks rest with
          | ':' :: rest => ([], some key, opening rest)
          | _ => ([], some key, .other)
      | _ => ([], none, .other)

/-- The readable part of a text. -/
def ofText (s : List Char) : Fragment :=
  match skipBlanks s with
  | '[' :: rest =>
    let (vs, next) := items (value (maxDepth - 1)) rest.length rest
    .array vs next
  | '\x7b' :: rest =>
    let (ms, key, next) := members (value (maxDepth - 1)) rest.length rest
    .object ms key next
  | _ => .other

end Fragment

end RichText.Json
