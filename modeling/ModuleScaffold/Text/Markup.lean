import ModuleScaffold.Text.Blank
import ModuleScaffold.Text.Casing

/-!
# Markup

A console reads tags in square brackets out of what it prints.  `[name]` opens a
style, `[/name]` closes it, and `[/]` closes the style that was opened last; the
tags themselves are not printed.  A closing tag that nothing matches is a failure, a
style that stays open is none.  An odd number of backslashes ahead of a tag makes it
a text.

What names a style goes by, and what the parameters of a handler may be, is up to the
console.  Emoji between colons, which a console replaces as well, are left as they are
here.
-/

namespace ModuleScaffold

/-- A tag: a name, with parameters if an equals sign follows it. -/
structure Tag where
  name : Text
  parameters : Option Text
deriving DecidableEq, Repr

namespace Tag

/-- The tag that a text between brackets writes. -/
def ofText (t : Text) : Tag :=
  let name := t.takeWhile (· != '=')
  ⟨name, if '=' ∈ t then some (t.drop (name.length + 1)) else none⟩

/-- The name that a closing tag closes.  It is empty for the style opened last. -/
def closes? (tag : Tag) : Option Text :=
  match tag.name with
  | '/' :: name => some (Text.trim name)
  | _ => none

/-- Whether a tag may begin with a character. -/
def beginsWith (c : Char) : Bool :=
  c.isLower || c == '#' || c == '/' || c == '@'

/-- The text of the tag whose opening bracket stands right ahead of a text. -/
def find? : Text → Option Text
  | [] => none
  | c :: rest =>
    let others := rest.takeWhile fun d => d != '[' && d != ']'
    if beginsWith c && (rest.drop others.length).head? == some ']' then
      some (c :: others)
    else
      none

end Tag

/-- A part of a text with markup. -/
inductive MarkupPart where
  | text (t : Text)
  | tag (tag : Tag)
deriving DecidableEq, Repr

/-- The parts of a text, less its first `skip` characters, which are part of a tag that
was read already.  Right ahead of the rest stand `slashes` backslashes. -/
def Text.markupParts (skip slashes : Nat) : Text → List MarkupPart
  | [] => [.text (List.replicate slashes '\\')]
  | c :: rest =>
    match skip with
    | skip + 1 => markupParts skip slashes rest
    | 0 =>
      if c = '\\' then
        markupParts 0 (slashes + 1) rest
      else if c = '[' then
        match Tag.find? rest with
        | some t =>
          .text (List.replicate (slashes / 2) '\\') ::
            (if slashes % 2 = 1 then .text ('[' :: t ++ [']']) else .tag (.ofText t)) ::
            markupParts (t.length + 1) 0 rest
        | none =>
          -- a bracket that begins no tag takes one backslash with it
          .text (List.replicate (slashes - 1) '\\' ++ ['[']) :: markupParts 0 0 rest
      else
        .text (List.replicate slashes '\\' ++ [c]) :: markupParts 0 0 rest

/-- Why the markup of a text cannot be read. -/
inductive MarkupFailure where
  /-- No open tag matches a closing one. -/
  | unmatched (tag : Tag)
  /-- The parameters of a handler are not understood. -/
  | badParameters (tag : Tag)
deriving DecidableEq, Repr

/-- What a console knows about styles. -/
structure Styles where
  /-- The name that all spellings of a style have in common. -/
  normal : Text → Text
  /-- Whether the parameters of a handler are understood. -/
  understands : Text → Bool

namespace Styles

/-- Styles that go by the name that is written for them, in small letters.  No handler
has parameters. -/
def plain : Styles where
  normal t := Text.lowerCase (Text.trim t)
  understands _ := false

/-- The tag that is closed, and those that stay open.  The tag opened last comes
first. -/
def close? (styles : Styles) (name : Text) (opened : List Tag) :
    Option (Tag × List Tag) :=
  if name = [] then
    opened.head?.map fun tag => (tag, opened.tail)
  else
    (opened.find? fun tag => tag.name == styles.normal name).map fun tag =>
      (tag, opened.erase tag)

/-- Whether a tag that is closed can take effect. -/
def allows (styles : Styles) (tag : Tag) : Bool :=
  tag.name.head? != some '@' ||
    tag.parameters.all fun t => t == [] || styles.understands t

/-- What is printed of parts, where some tags are open already. -/
def print (styles : Styles) : List Tag → List MarkupPart → Except MarkupFailure Text
  | _, [] => .ok []
  | opened, .text t :: rest => (print styles opened rest).map (t ++ ·)
  | opened, .tag tag :: rest =>
    match tag.closes? with
    | none => print styles ({ tag with name := styles.normal tag.name } :: opened) rest
    | some name =>
      match styles.close? name opened with
      | none => .error (.unmatched tag)
      | some (closed, others) =>
        if styles.allows closed then
          print styles others rest
        else
          .error (.badParameters closed)

/-- What is printed of a text with markup. -/
def read (styles : Styles) (t : Text) : Except MarkupFailure Text :=
  styles.print [] (t.markupParts 0 0)

end Styles

/-- A line to print: a text as it stands, or one with a part whose markup is read. -/
inductive Line where
  | plain (t : Text)
  | marked (front t back : Text)
deriving DecidableEq, Repr

namespace Line

/-- The line with its markup unread. -/
def text : Line → Text
  | .plain t => t
  | .marked front t back => front ++ t ++ back

/-- What a console prints of a line. -/
def read (styles : Styles) : Line → Except MarkupFailure Text
  | .plain t => .ok t
  | .marked front t back => (styles.read t).map fun shown => front ++ shown ++ back

end Line

end ModuleScaffold
