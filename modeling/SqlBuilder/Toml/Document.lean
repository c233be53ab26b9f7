import SqlBuilder.Toml.Definition
import SqlBuilder.Toml.Quoted
import SqlBuilder.Toml.Scalar

/-!
# Reading a TOML document

A document is a sequence of lines: headers that open tables, and keys with
their values. Arrays and inline tables may span lines, between all of their
parts but within no key, and may end in a comma.

The readers of nested values take a bound on the number of their steps, which
the length of the document always satisfies, and the depth to which values may
still be nested.
-/

namespace SqlBuilder
namespace Toml
namespace Document

/-- How deeply arrays and inline tables may be nested, and how many parts a key
may have. -/
def maximalDepth : Nat := 80

/-- A character of a key without quotes. -/
def isKeyChar (character : Char) : Bool :=
  character.isAlphanum || character == '_' || character == '-'

/-- Leave out the blanks of a line. -/
def skipSpaces (text : List Char) : List Char :=
  text.dropWhile Quoted.isSpace

/-- What follows a comment that starts here, the line end included. -/
def afterComment : List Char → Except Problem (List Char)
  | [] => .ok []
  | '\n' :: rest => .ok ('\n' :: rest)
  | '\r' :: '\n' :: rest => .ok ('\n' :: rest)
  | character :: rest =>
      if Quoted.isPlain character then afterComment rest
      else .error (.malformed "a printable character in a comment")

/-- Leave out blanks, line ends and comments. -/
def skipLines : Nat → List Char → Except Problem (List Char)
  | 0, text => .ok text
  | steps + 1, text =>
      match skipSpaces text with
      | '\n' :: rest => skipLines steps rest
      | '\r' :: '\n' :: rest => skipLines steps rest
      | '#' :: rest => do skipLines steps (← afterComment rest)
      | rest => .ok rest

/-- What follows the end of a line. A comment may precede it. -/
def afterLine (text : List Char) : Except Problem (List Char) :=
  match skipSpaces text with
  | [] => .ok []
  | '\n' :: rest => .ok rest
  | '\r' :: '\n' :: rest => .ok rest
  | '#' :: rest => afterComment rest
  | _ => .error (.malformed "the end of the line")

/-- One part of a key. -/
def keyPart (text : List Char) : Except Problem (String × List Char) :=
  match Quoted.readLine? text with
  | some quoted => quoted
  | none =>
      let part := text.takeWhile isKeyChar
      if part.isEmpty then .error (.malformed "a key")
      else .ok (String.ofList part, text.dropWhile isKeyChar)

/-- The parts of a key, separated by dots, and what follows them. -/
def key : Nat → List Char → Except Problem (List String × List Char)
  | 0, _ => .error (.malformed "a key")
  | steps + 1, text => do
      let part ← keyPart (skipSpaces text)
      match skipSpaces part.2 with
      | '.' :: rest =>
          let others ← key steps rest
          return (part.1 :: others.1, others.2)
      | rest => return ([part.1], rest)

/-- The path to a table and the last part of a key. -/
def splitLast (first : String) : List String → List String × String
  | [] => ([], first)
  | second :: rest =>
      let split := splitLast second rest
      (first :: split.1, split.2)

/-- A key with its path, and what follows it. -/
def pathKey (text : List Char) : Except Problem ((List String × String) × List Char) := do
  match ← key text.length text with
  | (first :: rest, after) =>
      if maximalDepth ≤ rest.length then .error .tooDeep
      else return (splitLast first rest, after)
  | ([], _) => .error (.malformed "a key")

/-- What follows a mark, which has to stand here. -/
def afterMark (mark : Char) : List Char → Except Problem (List Char)
  | [] => .error (.malformed "a mark behind the key")
  | next :: rest =>
      if next == mark then .ok rest else .error (.malformed "a mark behind the key")

mutual

/-- A value, and what follows it. -/
def value (depth : Nat) : Nat → List Char → Except Problem (Value × List Char)
  | 0, _ => .error (.malformed "a value")
  | steps + 1, text =>
      match Quoted.read? text with
      | some quoted => quoted.map fun read => (.string read.1, read.2)
      | none =>
          match text with
          | '[' :: rest =>
              match depth with
              | 0 => .error .tooDeep
              | depth + 1 => do
                  let read ← elements depth [] steps rest
                  return (.array read.1, read.2)
          | '{' :: rest =>
              match depth with
              | 0 => .error .tooDeep
              | depth + 1 => do
                  let read ← pairs depth [] steps rest
                  return (.table (entriesToValues read.1), read.2)
          | _ => Scalar.read text

/-- The elements of an array up to its closing bracket. -/
def elements (depth : Nat) (collected : List Value) :
    Nat → List Char → Except Problem (List Value × List Char)
  | 0, _ => .error (.malformed "a closing bracket")
  | steps + 1, text => do
      match ← skipLines text.length text with
      | ']' :: rest => return (collected, rest)
      | start =>
          let read ← value depth steps start
          match ← skipLines read.2.length read.2 with
          | ',' :: rest => elements depth (collected ++ [read.1]) steps rest
          | ']' :: rest => return (collected ++ [read.1], rest)
          | _ => .error (.malformed "a comma or a closing bracket")

/-- The keys and values of an inline table up to its closing brace. -/
def pairs (depth : Nat) (collected : Entries) :
    Nat → List Char → Except Problem (Entries × List Char)
  | 0, _ => .error (.malformed "a closing brace")
  | steps + 1, text => do
      match ← skipLines text.length text with
      | '}' :: rest => return (collected, rest)
      | start =>
          let name ← pathKey start
          let equals ← skipLines name.2.length name.2
          let behind ← afterMark '=' equals
          let read ← value depth steps (← skipLines behind.length behind)
          let changed ← collected.define name.1.1 name.1.2 (.value read.1)
          match ← skipLines read.2.length read.2 with
          | ',' :: rest => pairs depth changed steps rest
          | '}' :: rest => return (changed, rest)
          | _ => .error (.malformed "a comma or a closing brace")

end

/-- The lines of a document, added to what has been read before under the last
header. -/
def lines (root : Entries) (header : List String) :
    Nat → List Char → Except Problem Entries
  | 0, _ => .ok root
  | steps + 1, text => do
      match ← skipLines text.length text with
      | [] => return root
      | '[' :: '[' :: rest =>
          let name ← pathKey rest
          let after ← afterMark ']' (← afterMark ']' name.2)
          let opened ← root.openNextTable name.1.1 name.1.2
          lines opened (name.1.1 ++ [name.1.2]) steps (← afterLine after)
      | '[' :: rest =>
          let name ← pathKey rest
          let after ← afterMark ']' name.2
          let opened ← root.openTable name.1.1 name.1.2
          lines opened (name.1.1 ++ [name.1.2]) steps (← afterLine after)
      | start =>
          let name ← pathKey start
          let spaced := skipSpaces (← afterMark '=' name.2)
          let read ← value maximalDepth (2 * spaced.length + 1) spaced
          let after ← afterLine read.2
          let changed ← root.within (Entries.define name.1.1 name.1.2 (.value read.1)) header
          lines changed header steps after

/-- Leave out the mark that may stand before the text of a file. -/
def withoutByteOrderMark : List Char → List Char
  | '\uFEFF' :: rest => rest
  | text => text

/-- The value of a whole document, which is a table. -/
def read (text : String) : Except Problem Value := do
  let characters := withoutByteOrderMark text.toList
  let root ← lines [] [] (characters.length + 1) characters
  return (Node.table .opened root).toValue

end Document
end Toml
end SqlBuilder
