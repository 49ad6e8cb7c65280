import Kumihan.Text.Occurrence

/-!
# Typography

Manuscripts are typed with ASCII punctuation and set with the full-width forms
of Japanese typesetting.  The rewriting runs over the whole text before any of
it is read, directives included.

## Main definitions

* `punctuationRules` — which ASCII form becomes which full-width form.
* `normalize s` — the text with every rule applied, one rule after the other.
* `opensFlush s` — a paragraph that begins with `s` takes no indent.
-/

namespace Kumihan.Markup

/-- One rewriting of punctuation. -/
structure PunctuationRule where
  /-- What the rule is about, in the words of a lint message. -/
  description : String
  /-- The form that is typed. -/
  ascii : List Char
  /-- The form that is set. -/
  fullWidth : List Char
  deriving Repr

/-- The rules in their order.  Three dots come first: nothing else looks at dots. -/
def punctuationRules : List PunctuationRule :=
  [ ⟨"Three dots (becomes ellipsis)", ['.', '.', '.'], ['…']⟩,
    ⟨"ASCII question mark", ['?'], ['？']⟩,
    ⟨"ASCII left parenthesis", ['('], ['（']⟩,
    ⟨"ASCII right parenthesis", [')'], ['）']⟩,
    ⟨"ASCII exclamation mark", ['!'], ['！']⟩,
    ⟨"ASCII tilde", ['~'], ['〜']⟩ ]

/-- The text with one rule applied throughout. -/
def PunctuationRule.apply (rule : PunctuationRule) (s : List Char) : List Char :=
  Text.replaceAll rule.ascii rule.fullWidth s

/-- The text in full-width punctuation. -/
def normalize (s : List Char) : List Char :=
  punctuationRules.foldl (fun t rule => rule.apply t) s

/-- The characters that open a paragraph without an indent: the ideographic
space, the opening brackets and the horizontal line. -/
def flushOpeners : List Char :=
  ['　', '『', '「', '（', '＜', '〔', '｛', '｟', '〈', '《', '【', '〖', '〘', '〚', '─']

/-- A paragraph with this text is set flush, without an indent. -/
def opensFlush : List Char → Bool
  | [] => false
  | c :: _ => c ∈ flushOpeners

end Kumihan.Markup
