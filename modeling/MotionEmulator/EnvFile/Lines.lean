import MotionEmulator.EnvFile
import MotionEmulator.Text.Blank

/-!
# Lines of environment files

How the program takes the lines of an environment file: `NAME=value`, perhaps after the word
`export`. A value is quoted, singly or doubly, and then goes on to the closing quote, or it is the
rest of the line without a comment and without the blanks at its end. A name alone is a bare name
and assigns nothing. A comment begins with a number sign behind a blank. `assignments` lists what a
file assigns, in order; a line that is none of these is passed over, and so is a byte order mark at
the beginning of the file.
-/

namespace MotionEmulator.EnvFile

/-- A text without the byte order mark that it may begin with. -/
def skipMark : List Char → List Char
  | '\ufeff' :: rest => rest
  | text => text

/-- A text with every line ended by a single line feed. -/
def normalizeLines : List Char → List Char
  | '\r' :: '\n' :: rest => '\n' :: normalizeLines rest
  | '\r' :: rest => '\n' :: normalizeLines rest
  | c :: rest => c :: normalizeLines rest
  | [] => []

/-- Whether a character is a blank within a line. -/
def isInlineBlank (c : Char) : Bool :=
  Text.isBlank c && c ≠ '\n'

def skipInline (text : List Char) : List Char :=
  text.dropWhile isInlineBlank

/-- A text after the word `export`, if it begins with that word and a blank. -/
def skipExport (text : List Char) : List Char :=
  match text with
  | 'e' :: 'x' :: 'p' :: 'o' :: 'r' :: 't' :: rest =>
    if rest.head?.any isInlineBlank then skipInline rest else text
  | _ => text

/-- What stands before the closing quote, and what after it. A character behind a backslash
closes nothing, not even where nothing else does. -/
def upToQuote (quote : Char) : List Char → Option (List Char × List Char)
  | [] => none
  | '\\' :: c :: rest =>
    (upToQuote quote rest).map fun (value, after) => ('\\' :: c :: value, after)
  | c :: rest =>
    if c = quote then some ([], rest)
    else (upToQuote quote rest).map fun (value, after) => (c :: value, after)

/-- The character that an escape stands for, between double quotes. -/
def unescapeDouble? : Char → Option Char
  | '\\' => some '\\'
  | '\'' => some '\''
  | '"' => some '"'
  | 'a' => some '\x07'
  | 'b' => some '\x08'
  | 'f' => some '\x0c'
  | 'n' => some '\n'
  | 'r' => some '\r'
  | 't' => some '\t'
  | 'v' => some '\x0b'
  | _ => none

/-- The character that an escape stands for, between single quotes. -/
def unescapeSingle? : Char → Option Char
  | '\\' => some '\\'
  | '\'' => some '\''
  | _ => none

/-- A text with its escapes replaced. A backslash that escapes nothing stays. -/
def unescape (escape? : Char → Option Char) : List Char → List Char
  | '\\' :: c :: rest =>
    match escape? c with
    | some e => e :: unescape escape? rest
    | none => '\\' :: unescape escape? (c :: rest)
  | c :: rest => c :: unescape escape? rest
  | [] => []

/-- A text up to a comment, which begins with a number sign after a blank. -/
def beforeComment : List Char → List Char
  | [] => []
  | c :: rest =>
    if Text.isBlank c && (rest.dropWhile Text.isBlank).head? = some '#' then []
    else c :: beforeComment rest

/-- The value after an equals sign, and the text after it. Without quotes the comment may begin
at once, so that the value is empty. -/
def readValue? (text : List Char) : Option (List Char × List Char) :=
  match skipInline text with
  | '\'' :: rest =>
    (upToQuote '\'' rest).map fun (value, after) => (unescape unescapeSingle? value, after)
  | '"' :: rest =>
    (upToQuote '"' rest).map fun (value, after) => (unescape unescapeDouble? value, after)
  | _ =>
    let line := text.takeWhile (· ≠ '\n')
    some (Text.strip (beforeComment line), text.dropWhile (· ≠ '\n'))

/-- The name at the beginning of a line, and the text after it; a comment line has none. -/
def readName? (text : List Char) : Option (Option (List Char) × List Char) :=
  match text with
  | '#' :: _ => some (none, text)
  | '\'' :: rest =>
    let name := rest.takeWhile (· ≠ '\'')
    match rest.dropWhile (· ≠ '\'') with
    | _ :: after => if name = [] then none else some (some name, after)
    | [] => none
  | _ =>
    let inName := fun c => !(c = '=' || c = '#' || Text.isBlank c)
    let name := text.takeWhile inName
    if name = [] then none else some (some name, text.dropWhile inName)

/-- The text after a comment, if any, and the end of the line; none if something else is left
on the line. -/
def endLine? (text : List Char) : Option (List Char) :=
  let text :=
    match skipInline text with
    | '#' :: rest => rest.dropWhile (· ≠ '\n')
    | _ => text
  match skipInline text with
  | [] => some []
  | '\n' :: rest => some rest
  | _ => none

/-- The text after the line that it begins in. -/
def skipLine (text : List Char) : List Char :=
  (text.dropWhile (· ≠ '\n')).tail

/-- The assignment of a name, at its equals sign or behind a bare name. -/
def readRest (name : Option (List Char)) (text : List Char) : Option Assignment × List Char :=
  let assign := fun value : Option (List Char) =>
    name.map fun n => (⟨String.ofList n, value.map String.ofList⟩ : Assignment)
  let finish := fun (value : Option (List Char)) (after : List Char) =>
    match endLine? after with
    | some rest => (assign value, rest)
    | none => (none, skipLine after)
  match skipInline text with
  | '=' :: rest =>
    match readValue? rest with
    | some (value, after) => finish (some value) after
    | none => (none, skipLine rest)
  | after => finish none after

/-- One line: what it assigns, if anything, and the text after it. -/
def readLine (text : List Char) : Option Assignment × List Char :=
  let text := skipExport text
  match readName? text with
  | some (name, rest) => readRest name rest
  | none => (none, skipLine text)

/-- The assignments of at most so many lines. -/
def readLines : Nat → List Char → List Assignment
  | 0, _ => []
  | limit + 1, text =>
    match text.dropWhile Text.isBlank with
    | [] => []
    | text =>
      let (assignment, rest) := readLine text
      assignment.toList ++ readLines limit rest

/-- The assignments of a file. Every line holds a character, so their number bounds the lines. -/
def assignments (text : List Char) : List Assignment :=
  readLines text.length (normalizeLines (skipMark text))

end MotionEmulator.EnvFile
