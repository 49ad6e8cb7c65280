import Kumihan.Proofs.Epub.Names

/-!
# The pages of a book

Placing the pages of a book fails for one reason only, and when it does not, every action has
its place: the pages have files of their own, whatever their number, and the pictures of the
front matter are counted apart from the pages of the body.

## Main results

* `prefaces_layoutFrom` — the pictures of the front matter are counted in their own sequence.
* `layout_pages` — **when the pages of a book can be placed, and where they are put.**
-/

namespace Kumihan.Epub

open Book (Action ActionKind DuplicatePage Layout Placement layout layoutFrom prefaceFile)

/-! ### The front matter -/

/-- **One page**: a picture of the front matter takes the next number of its sequence, and no
other page does. -/
theorem preface_place {l l' : Layout} {a : Action} {u : Placement}
    (h : l.place a = .ok (u, l')) :
    u.action = a ∧ l'.nextPreface = l.nextPreface + (if a.kind = .prefaceImage then 1 else 0)
      ∧ (a.kind = .prefaceImage →
        u.number = some l.nextPreface ∧ u.file = some (prefaceFile l.nextPreface)) := by
  unfold Layout.place at h
  cases hkind : a.kind <;> rw [hkind] at h <;> simp only at h
  case toc | titlePage | colophonImage =>
    split at h
    · contradiction
    · obtain ⟨rfl, rfl⟩ := by simpa using h
      exact ⟨rfl, rfl, nofun⟩
  case prefaceImage =>
    obtain ⟨rfl, rfl⟩ := by simpa using h
    exact ⟨rfl, rfl, fun _ => ⟨rfl, rfl⟩⟩
  all_goals
    obtain ⟨rfl, rfl⟩ := by simpa using h
    exact ⟨rfl, rfl, nofun⟩

/-- **The pictures of the front matter** are counted in a sequence of their own.  The induction
is on the actions, with the number of the next such picture. -/
theorem prefaces_layoutFrom {l : Layout} {as : List Action} {us : List Placement}
    (h : layoutFrom l as = .ok us) :
    (us.filter (·.action.kind = .prefaceImage)).map (fun u => (u.number, u.file))
      = (List.range' l.nextPreface (as.countP (·.kind = .prefaceImage))).map
        fun n => (some n, some (prefaceFile n)) := by
  induction as generalizing l us with
  | nil =>
    obtain rfl := Except.ok.inj h
    rfl
  | cons a as ih =>
    obtain ⟨u, l', rest, hplace, hrest, rfl⟩ := Book.layoutFrom_cons_eq_ok h
    obtain ⟨haction, hnext, hpreface⟩ := preface_place hplace
    have ih := ih hrest
    by_cases hkind : a.kind = .prefaceImage
    · obtain ⟨hnumber, hfile⟩ := hpreface hkind
      rw [if_pos hkind] at hnext
      rw [List.filter_cons_of_pos (by simp [haction, hkind]), List.map_cons, ih, hnext,
        List.countP_cons_of_pos (by simp [hkind]), List.range'_succ, List.map_cons, hnumber, hfile]
    · rw [if_neg hkind, Nat.add_zero] at hnext
      rw [List.filter_cons_of_neg (by simp [haction, hkind]), ih, hnext,
        List.countP_cons_of_neg (by simp [hkind])]

/-! ### All pages -/

/-- The kinds that can occur once. -/
theorem isSingle_iff {kind : ActionKind} :
    kind.isSingle = true ↔ kind ∈ [.toc, .titlePage, .colophonImage] := by
  cases kind <;> decide

/-- **The pages of a book** can be placed unless one of the kinds that can occur once occurs
twice, which is then what is wrong.  Every action is placed, in its order: the picture of a
character has no file, the files of all pages and that of the cover differ, and the pictures of
the front matter have the numbers from one on. -/
theorem layout_pages (actions : List Action) :
    ((∃ fault, layout actions = .error fault)
        ↔ ∃ kind ∈ [ActionKind.toc, .titlePage, .colophonImage],
          2 ≤ actions.countP (·.kind = kind))
      ∧ (∀ fault, layout actions = .error fault →
        fault.kind ∈ [ActionKind.toc, .titlePage, .colophonImage]
          ∧ 2 ≤ actions.countP (·.kind = fault.kind))
      ∧ ∀ us, layout actions = .ok us →
        us.map (·.action) = actions
          ∧ (∀ u ∈ us, u.file = none ↔ u.action.kind = .glyphImage)
          ∧ (coverFile :: us.filterMap (·.file)).Nodup
          ∧ (us.filter (·.action.kind = .prefaceImage)).map (fun u => (u.number, u.file))
            = (List.range' 1 (actions.countP (·.kind = .prefaceImage))).map
              fun n => (some n, some (prefaceFile n)) := by
  have hfault : ∀ fault, layout actions = .error fault →
      fault.kind ∈ [ActionKind.toc, .titlePage, .colophonImage]
        ∧ 2 ≤ actions.countP (·.kind = fault.kind) := by
    intro fault h
    obtain ⟨hsingle, hcount⟩ := Book.layoutFrom_eq_error h
    rw [Layout.placed, if_neg List.not_mem_nil, Nat.zero_add] at hcount
    exact ⟨isSingle_iff.mp hsingle, hcount⟩
  refine ⟨⟨?_, ?_⟩, hfault, ?_⟩
  · rintro ⟨fault, h⟩
    exact ⟨fault.kind, hfault fault h⟩
  · rintro ⟨kind, hkind, hcount⟩
    cases hlayout : layout actions with
    | error fault => exact ⟨fault, rfl⟩
    | ok us =>
      have honce := Book.layout_eq_ok_iff.mp ⟨us, hlayout⟩ kind (isSingle_iff.mpr hkind)
      omega
  · intro us h
    refine ⟨Book.map_action_layout h, fun u hu => ?_, nodup_pageFiles h, prefaces_layoutFrom h⟩
    have hfile := (wellPlaced_layoutFrom h u hu).isSome_file
    rw [← Option.not_isSome_iff_eq_none, hfile, not_not]

/-- Front matter before and behind the table of contents, the picture of a character and a
chapter. -/
def frontMatter : List Action :=
  [{ kind := .prefaceImage, content := "a.png" }, { kind := .toc },
   { kind := .prefaceImage, content := "b.png" }, { kind := .glyphImage, content := "c.png" },
   { kind := .titledBody, title := some "A" }]

/-- The front matter is placed, and with a second table of contents it is not. -/
theorem layout_frontMatter :
    (∃ us, layout frontMatter = .ok us
        ∧ us.map (·.file) = [some (prefaceFile 1), some "xhtml/p-toc.xhtml", some (prefaceFile 2),
          none, some "xhtml/p-001.xhtml"]
        ∧ (coverFile :: us.filterMap (·.file)).Nodup
        ∧ (us.filter (·.action.kind = .prefaceImage)).map (fun u => (u.number, u.file))
          = [(some 1, some (prefaceFile 1)), (some 2, some (prefaceFile 2))])
      ∧ ∃ fault, layout ({ kind := .toc } :: frontMatter) = .error fault ∧ fault.kind = .toc := by
  constructor
  · obtain ⟨-, -, hpages⟩ := layout_pages frontMatter
    obtain ⟨us, hus⟩ : ∃ us, layout frontMatter = .ok us := by
      simp [frontMatter, layout, layoutFrom, Layout.place]
    obtain ⟨-, -, hfiles, hprefaces⟩ := hpages us hus
    refine ⟨us, hus, ?_, hfiles, hprefaces⟩
    obtain rfl : _ = us := Except.ok.inj hus
    decide +kernel
  · obtain ⟨herror, hfault, -⟩ := layout_pages ({ kind := .toc } :: frontMatter)
    obtain ⟨fault, h⟩ := herror.mpr ⟨.toc, by decide, by decide⟩
    exact ⟨fault, h, congrArg DuplicatePage.kind (Except.error.inj h).symm⟩

end Kumihan.Epub
