import Kumihan.Text.Decimal
import Kumihan.Text.Line
import Kumihan.Markup.Command

/-!
# Directives

Each line of a manuscript is one directive.  A line is asked in this order: does
it hold `#toc#`, does it refer to a glyph, is something in it bracketed by `#`,
is it a rule of hyphens, is it empty?  Whatever is left is text.

## Main definitions

* `Directive` — a command with its argument, its glyphs and its line number.
* `Directive.ofLine` — the directive of one line.
* `Directive.ofText` — the directives of a text, up to the first unknown name.
* `glyphTag` — the picture of one character inside a line.
-/

namespace Kumihan.Markup

/-- One line, read. -/
structure Directive where
  /-- What the line asks for. -/
  command : Command
  /-- The text that belongs to the command. -/
  argument : String := ""
  /-- The glyph files the line refers to, each once. -/
  glyphs : List String := []
  /-- The line's number. -/
  line : Int := 0
  deriving DecidableEq, Repr, Inhabited

/-- A line names a directive that does not exist. -/
structure UnknownDirective where
  /-- The name that is written. -/
  name : String
  /-- The line's number. -/
  line : Int
  deriving DecidableEq, Repr

/-- What is said of an unknown directive. -/
def UnknownDirective.detail (fault : UnknownDirective) : String :=
  "`" ++ fault.name ++ "` is an unimplemented directive"

/-- What is said of it, with its place. -/
def UnknownDirective.message (fault : UnknownDirective) : String :=
  "line " ++ String.ofList (Text.numeral fault.line) ++ ": " ++ fault.detail

/-! ### Glyph references -/

/-- What opens a reference to a glyph. -/
def glyphMarker : List Char := ['#', 'g', 'a', 'i', 'j', 'i', ',']

/-- The picture of a character that no font has. -/
def glyphTag (file : String) : String :=
  "<img class=\"gaiji\" src=\"../image/" ++ file ++ "\" alt=\"\" />"

/-- The name of the glyph reference that the text begins with, and the text behind
it.  The name runs to the next `#` and stays on the line. -/
def glyphReference? (s : List Char) : Option (List Char × List Char) :=
  if glyphMarker.isPrefixOf s then
    match Text.cutAt? '#' (s.drop glyphMarker.length) with
    | some (name, rest) => if '\n' ∈ name then none else some (name, rest)
    | none => none
  else none

/-- A piece of a line of text. -/
inductive Piece
  /-- A character that stands for itself. -/
  | char (c : Char)
  /-- A complete reference to a glyph. -/
  | glyph (name : List Char)
  deriving DecidableEq, Repr

theorem length_lt_of_cutAt? {c : Char} {s before after : List Char}
    (h : Text.cutAt? c s = some (before, after)) : after.length < s.length := by
  induction s generalizing before after with
  | nil => simp [Text.cutAt?] at h
  | cons d s ih =>
    simp only [Text.cutAt?] at h
    split at h
    · obtain ⟨-, rfl⟩ : [] = before ∧ s = after := by simpa using h
      simp
    · obtain ⟨⟨b, a⟩, hcut, hba⟩ := Option.map_eq_some_iff.1 h
      obtain ⟨-, rfl⟩ : d :: b = before ∧ a = after := by simpa using hba
      have := ih hcut
      simp only [List.length_cons]
      omega

/-- Behind a glyph reference less text is left. -/
theorem length_lt_of_glyphReference? {s name rest : List Char}
    (h : glyphReference? s = some (name, rest)) : rest.length < s.length := by
  unfold glyphReference? at h
  split at h
  · split at h
    · next hcut =>
      split at h
      · simp at h
      · obtain ⟨-, rfl⟩ := by simpa using h
        have := length_lt_of_cutAt? hcut
        simp only [List.length_drop] at this
        omega
    · simp at h
  · simp at h

/-- The pieces of a line, read from the left. -/
def pieces (s : List Char) : List Piece :=
  match _h : glyphReference? s with
  | some (name, rest) => .glyph name :: pieces rest
  | none =>
    match s with
    | [] => []
    | c :: rest => .char c :: pieces rest
termination_by s.length
decreasing_by
  · exact length_lt_of_glyphReference? _h
  · simp

/-- A piece as it is set. -/
def Piece.render : Piece → List Char
  | .char c => [c]
  | .glyph name => (glyphTag (String.ofList name)).toList

/-- The glyph names among the pieces, each at its first occurrence. -/
def glyphNames (ps : List Piece) : List String :=
  (ps.filterMap fun
    | .glyph name => some (String.ofList name)
    | .char _ => none).eraseDups

/-- A line that refers to glyphs: its argument is the line with every complete
reference set as a picture. -/
def glyphLine (s : List Char) (line : Int) : Directive :=
  let ps := pieces s
  { command := .glyph
    argument := String.ofList (ps.flatMap Piece.render)
    glyphs := glyphNames ps
    line }

/-! ### Lines -/

/-- What stands between the first and the last `#` of a text, if it has two. -/
def betweenHashes? (s : List Char) : Option (List Char) := do
  let (_, rest) ← Text.cutAt? '#' s
  let (inner, _) ← Text.cutLast? '#' rest
  return inner

/-- The bracketed part of a line: that of its first stretch without a line feed
that has one. -/
def bracketed? (s : List Char) : Option (List Char) :=
  (Text.splitOn '\n' s).findSome? betweenHashes?

/-- A name and its argument, cut at the first comma. -/
def nameAndArgument (inner : List Char) : List Char × List Char :=
  (Text.cutAt? ',' inner).getD (inner, [])

/-- The directive of one line. -/
def Directive.ofLine (s : List Char) (line : Int := 0) : Except UnknownDirective Directive :=
  if Text.hasInfix ['#', 't', 'o', 'c', '#'] s then
    .ok { command := .toc, line }
  else if Text.hasInfix glyphMarker s then
    .ok (glyphLine s line)
  else match bracketed? s with
    | some inner =>
      let (name, argument) := nameAndArgument inner
      match Command.ofName? (String.ofList name) with
      | some command => .ok { command, argument := String.ofList argument, line }
      | none => .error { name := String.ofList name, line }
    | none =>
      if Text.hasInfix (List.replicate 10 '-') s then .ok { command := .pageBreak, line }
      else if s.isEmpty then .ok { command := .blank, line }
      else .ok { command := .text, argument := String.ofList s, line }

/-- The directives of the lines from number `n` on, up to the first line that
names no known directive, and that line's fault. -/
def Directive.ofLines : List (List Char) → Int → List Directive × Option UnknownDirective
  | [], _ => ([], none)
  | s :: rest, n =>
    match ofLine s n with
    | .error fault => ([], some fault)
    | .ok d =>
      let (ds, fault) := ofLines rest (n + 1)
      (d :: ds, fault)

/-- The directives of a text, its lines counted from one. -/
def Directive.ofText (s : List Char) : List Directive × Option UnknownDirective :=
  ofLines (Text.lines s) 1

end Kumihan.Markup
