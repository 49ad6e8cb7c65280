import Kumihan.Book.Page
import Kumihan.Proofs.Epub.Package
import Kumihan.Proofs.Text.Attribute
import Kumihan.Proofs.Text.Occurrence

/-!
# What pictures are called in markup

A picture is packaged under its own name, and markup refers to it by this name as the source of an
image.  The fields of a plan are escaped where they are put into markup, the names of pictures are
not.  So a reference leads to the picture exactly if its name has no character that markup gives a
meaning.

## Main definitions

* `imageMark`, `source?` — the source of the first image of a class in some markup.
* `reference` — the value that leads to a picture.
* `IsPlainName`, `RefersPlainly` — a name without special characters, and markup with a name as it
  is.

## Main results

* `RefersPlainly.eq_reference_iff` — when a name that is written as it is leads to the picture.
* `sources_eq_iff` — **which pictures the markup of a book leads to.**
* `exists_source_astray` — **the name of a picture can lead elsewhere.**
-/

namespace Kumihan.Epub

open Book (fittedImage fullPage imagePage mediaType pageOpening)
open Markup (glyphTag)
open Text (attributeValue? cut? neverBegins neverBegins_append neverBegins_of_notMem)

/-! ### Sources -/

/-- The beginning of an image of a class, up to the value of its source. -/
def imageMark (cls : String) : String := "<img class=\"" ++ cls ++ "\" src=\""

/-- The source of the first image of a class in some markup. -/
def source? (cls markup : String) : Option (List Char) :=
  (cut? (imageMark cls).toList markup.toList).bind fun (_, behind) => attributeValue? behind

/-- The value of a source that leads from a page to a picture of the package. -/
def reference (file : String) : String := "../image/" ++ file

/-- The name has no character that the value of an attribute gives a meaning. -/
def IsPlainName (file : String) : Prop := '"' ∉ file.toList ∧ '&' ∉ file.toList ∧ '<' ∉ file.toList

/-- The markup has an image of the class, with a reference to the picture as it is. -/
def RefersPlainly (cls markup file : String) : Prop :=
  ∃ behind, source? cls markup = attributeValue? ((reference file).toList ++ '"' :: behind)

theorem exists_imageMark_cons (cls : String) : ∃ m, (imageMark cls).toList = '<' :: m := by
  have hfirst : "<img class=\"".toList = '<' :: "img class=\"".toList := by decide +kernel
  simp only [imageMark, String.toList_append, hfirst, List.cons_append]
  exact ⟨_, rfl⟩

/-- No image begins in what is escaped. -/
theorem neverBegins_imageMark {cls s : String} (h : '<' ∉ s.toList) :
    neverBegins (imageMark cls).toList s.toList = true := by
  obtain ⟨m, hm⟩ := exists_imageMark_cons cls
  rw [hm]
  exact neverBegins_of_notMem h

/-- Where an image begins in neither of two texts, it begins in neither of them together. -/
theorem neverBegins_appendText {mark : List Char} {a b : String}
    (ha : neverBegins mark a.toList = true) (hb : neverBegins mark b.toList = true) :
    neverBegins mark (a ++ b).toList = true := by
  rw [String.toList_append]
  exact neverBegins_append ha hb

theorem notMem_reference_iff {c : Char} {file : String} (hc : c ∉ "../image/".toList) :
    c ∉ (reference file).toList ↔ c ∉ file.toList := by
  simp only [reference, String.toList_append, List.mem_append, not_or]
  exact and_iff_right hc

/-- **A reference as it is** leads to the picture exactly if its name is plain. -/
theorem RefersPlainly.eq_reference_iff {cls markup file : String}
    (h : RefersPlainly cls markup file) :
    source? cls markup = some (reference file).toList ↔ IsPlainName file := by
  obtain ⟨behind, hsource⟩ := h
  rw [hsource]
  refine (Text.attributeValue?_eq_self_iff behind).trans ?_
  rw [notMem_reference_iff (by decide +kernel), notMem_reference_iff (by decide +kernel),
    notMem_reference_iff (by decide +kernel)]
  rfl

section

variable {cls opening closing : String} {before behind : List Char}

theorem refersPlainly_append
    (hopening : opening.toList = before ++ ((imageMark cls).toList ++ "../image/".toList))
    (hclosing : closing.toList = '"' :: behind)
    (hbefore : neverBegins (imageMark cls).toList before = true) (file : String) :
    RefersPlainly cls (opening ++ file ++ closing) file := by
  have hmark : (imageMark cls).toList ≠ [] := by
    obtain ⟨m, hm⟩ := exists_imageMark_cons cls
    rw [hm]
    exact List.cons_ne_nil _ _
  have hmarkup : (opening ++ file ++ closing).toList
      = before ++ ((imageMark cls).toList ++ ((reference file).toList ++ '"' :: behind)) := by
    simp only [String.toList_append, hopening, hclosing, reference, List.append_assoc]
  refine ⟨behind, ?_⟩
  rw [source?, hmarkup, Text.cut?_of_neverBegins hmark hbefore]
  rfl

/-- An image behind some markup in which there is none, and before some other markup. -/
theorem refersPlainly_between {front : String}
    (hopening : opening.toList = before ++ ((imageMark cls).toList ++ "../image/".toList))
    (hclosing : closing.toList = '"' :: behind)
    (hbefore : neverBegins (imageMark cls).toList before = true)
    (hfront : neverBegins (imageMark cls).toList front.toList = true) (file next last : String) :
    RefersPlainly cls (front ++ (opening ++ file ++ closing) ++ next ++ last) file := by
  have hparts : front ++ (opening ++ file ++ closing) ++ next ++ last
      = front ++ opening ++ file ++ (closing ++ (next ++ last)) := by
    simp only [String.append_assoc]
  have hfirst : (front ++ opening).toList
      = front.toList ++ before ++ ((imageMark cls).toList ++ "../image/".toList) := by
    rw [String.toList_append, hopening, List.append_assoc]
  have hlast : (closing ++ (next ++ last)).toList = '"' :: (behind ++ (next ++ last).toList) := by
    rw [String.toList_append, hclosing, List.cons_append]
  rw [hparts]
  exact refersPlainly_append hfirst hlast (neverBegins_append hfront hbefore) file

end

/-! ### Glyphs and pages -/

theorem refersPlainly_glyphTag (file : String) : RefersPlainly "gaiji" (glyphTag file) file := by
  have hopening : "<img class=\"gaiji\" src=\"../image/".toList
      = [] ++ ((imageMark "gaiji").toList ++ "../image/".toList) := by
    decide +kernel
  have hclosing : "\" alt=\"\" />".toList = '"' :: " alt=\"\" />".toList := by decide +kernel
  exact refersPlainly_append hopening hclosing rfl file

/-- No fitted image begins before the body of a page, whatever the fields of the plan are. -/
theorem neverBegins_pageOpening (plan : BookPlan) :
    neverBegins (imageMark "fit").toList (pageOpening plan "hltr").toList = true := by
  -- all pieces but the two fields are known, and the fields open no tag
  unfold pageOpening
  refine neverBegins_appendText ?_ (by decide +kernel)
  refine neverBegins_appendText ?_ (neverBegins_imageMark (Text.lt_notMem_escapeText plan.title))
  iterate 8 refine neverBegins_appendText ?_ (by decide +kernel)
  refine neverBegins_appendText ?_
    (neverBegins_imageMark (Text.lt_notMem_escapeAttribute plan.lang))
  iterate 5 refine neverBegins_appendText ?_ (by decide +kernel)
  decide +kernel

/-- A fitted image behind some markup without one. -/
theorem refersPlainly_fittedImage {front : String}
    (hfront : neverBegins (imageMark "fit").toList front.toList = true)
    (file next last : String) :
    RefersPlainly "fit" (front ++ fittedImage file ++ next ++ last) file := by
  have hopening : "<p><img class=\"fit\" src=\"../image/".toList
      = "<p>".toList ++ ((imageMark "fit").toList ++ "../image/".toList) := by
    decide +kernel
  have hclosing : "\" alt=\"\"/></p>\n".toList = '"' :: " alt=\"\"/></p>\n".toList := by
    decide +kernel
  exact refersPlainly_between hopening hclosing (by decide +kernel) hfront file next last

theorem refersPlainly_imagePage (plan : BookPlan) (file : String) :
    RefersPlainly "fit" (imagePage plan file) file := by
  refine refersPlainly_fittedImage ?_ file _ _
  iterate 5 refine neverBegins_appendText ?_ (by decide +kernel)
  exact neverBegins_pageOpening plan

theorem refersPlainly_fullPage (plan : BookPlan) (file : String) :
    RefersPlainly "fit" (fullPage plan file) file := by
  refine refersPlainly_fittedImage ?_ file _ _
  iterate 5 refine neverBegins_appendText ?_ (by decide +kernel)
  exact neverBegins_pageOpening plan

/-- **Which pictures the markup of a book leads to.**  A picture of a supported type that is new in
a package is stored under its own name.  The source of its glyph, of its page and of the page that
it fills, read as the value of an attribute, leads to it exactly if the name is plain.  Were the
name escaped as the language of the plan is, it would be read back whatever it is. -/
theorem sources_eq_iff {file type : String} (htype : mediaType file = .ok type)
    (plan : BookPlan) :
    (∀ p payload, p.images.lookup file = none → ∃ id p' item,
        Package.addImage p file payload = .ok (id, p') ∧ p'.items = p.items ++ [item]
          ∧ item.file = "image/" ++ file)
      ∧ (source? "gaiji" (glyphTag file) = some (reference file).toList ↔ IsPlainName file)
      ∧ (source? "fit" (imagePage plan file) = some (reference file).toList ↔ IsPlainName file)
      ∧ (source? "fit" (fullPage plan file) = some (reference file).toList ↔ IsPlainName file)
      ∧ ∀ behind, attributeValue? ((Text.escapeAttribute file).toList ++ '"' :: behind)
          = some file.toList :=
  ⟨fun _ payload hnew => ⟨_, _, _, addImage_of_new htype hnew payload, rfl, rfl⟩,
    (refersPlainly_glyphTag file).eq_reference_iff,
    (refersPlainly_imagePage plan file).eq_reference_iff,
    (refersPlainly_fullPage plan file).eq_reference_iff,
    Text.attributeValue?_escapeAttribute file⟩

theorem sources_plainName :
    mediaType "a.png" = .ok "image/png"
      ∧ source? "gaiji" (glyphTag "a.png") = some (reference "a.png").toList
      ∧ source? "fit" (imagePage default "a.png") = some (reference "a.png").toList
      ∧ source? "fit" (fullPage default "a.png") = some (reference "a.png").toList := by
  have htype : mediaType "a.png" = .ok "image/png" := by decide +kernel
  have hplain : IsPlainName "a.png" := by
    unfold IsPlainName
    decide +kernel
  obtain ⟨-, hglyph, hpage, hfull, -⟩ := sources_eq_iff htype default
  exact ⟨htype, hglyph.mpr hplain, hpage.mpr hplain, hfull.mpr hplain⟩

/-- **The name of a picture can lead elsewhere.**  A quote ends the value, and what looks like a
reference to a character is read as one. -/
theorem exists_source_astray :
    (mediaType "a\"b.png" = .ok "image/png"
      ∧ source? "gaiji" (glyphTag "a\"b.png") = some "../image/a".toList)
    ∧ mediaType "A&amp;B.png" = .ok "image/png"
      ∧ source? "fit" (imagePage default "A&amp;B.png") = some "../image/A&B.png".toList := by
  refine ⟨⟨by decide +kernel, ?_⟩, by decide +kernel, ?_⟩
  · obtain ⟨behind, hsource⟩ := refersPlainly_glyphTag "a\"b.png"
    have hname : (reference "a\"b.png").toList = "../image/a".toList ++ '"' :: "b.png".toList := by
      decide +kernel
    rw [hsource, hname, List.append_assoc, List.cons_append,
      Text.attributeValue?_append (by decide +kernel)]
    exact Text.decodeReferences_of_notMem (by decide +kernel) (by decide +kernel)
  · obtain ⟨behind, hsource⟩ := refersPlainly_imagePage default "A&amp;B.png"
    have hname : (reference "A&amp;B.png").toList
        = "../image/A".toList ++ '&' :: (['a', 'm', 'p'] ++ ';' :: "B.png".toList) := by
      decide +kernel
    have hread : Text.decodeReferences "B.png".toList = some "B.png".toList :=
      Text.decodeReferences_of_notMem (by decide +kernel) (by decide +kernel)
    have hvalue : "../image/A".toList ++ '&' :: "B.png".toList = "../image/A&B.png".toList := by
      decide +kernel
    rw [hsource, Text.attributeValue?_append (by decide +kernel), hname,
      Text.decodeReferences_append (by decide +kernel) (by decide +kernel),
      Text.decodeReferences_reference (by decide), hread, ← hvalue]
    rfl

end Kumihan.Epub
