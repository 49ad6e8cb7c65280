import Kumihan.Proofs.Epub.Package

/-!
# What a package does when it is asked

An operation of a package is a routine: it changes the package step by step, and may be refused on
the way, which leaves what has been done by then.  Pictures, the cover and the reading order are
checked before the first change, so they leave no trace where they are refused; a page may have been
put into its place by then.

## Main definitions

* `Operation` — what a package can be asked for.
* `Routine`, `Routine.outcome` — what it does, step by step, and what that comes to.

## Main results

* `Routine.outcome_cover`, `outcome_image`, `outcome_page`, `outcome_finalize` — the routines come
  to what the operations of a package are.
-/

namespace Kumihan.Epub

open Book (Role mediaType)

/-- An operation that a package is asked for. -/
inductive Operation
  /-- A file that is packaged as it is. -/
  | resource (id file mediaType : String) (payload : Payload)
  /-- The cover. -/
  | cover (file : String) (payload : Payload)
  /-- A picture of the manuscript. -/
  | image (file : String) (payload : Payload)
  /-- A page. -/
  | page (request : Package.PageRequest)
  /-- The reading order is settled. -/
  | finalize
  deriving DecidableEq, Repr

/-- What is done for an operation: the package is changed step by step, and there is an answer, or
it is refused on the way, and what has been done by then stays. -/
abbrev Routine := ExceptT PackageFault (StateM Package)

namespace Routine

/-- What a routine comes to. -/
def outcome {α : Type} (routine : Routine α) (p : Package) : Except PackageFault α × Package :=
  (routine.run.run p).run

/-- The media type of a picture, if it is supported. -/
def typeOf (file : String) : Routine String :=
  match mediaType file with
  | .ok type => pure type
  | .error fault => throw (.unsupportedPicture fault)

/-- An item goes to the end. -/
def addItem (item : Item) : Routine Unit := modify (·.addItem item)

/-- The cover: its type has to be supported before anything is done. -/
def cover (file : String) (payload : Payload) : Routine String := do
  let type ← typeOf file
  let name := "cover-image" ++ Files.Path.extension file
  addItem ⟨"cover-image", "image/" ++ name, type, payload⟩
  modify fun p => { p with
    metadata := p.metadata ++
      [⟨none, "meta", .text "", some [("name", "cover"), ("content", "cover-image")]⟩] }
  return name

/-- A picture: it is looked up, numbered, made an item and noted, in this order. -/
def image (file : String) (payload : Payload) : Routine String := do
  match (← get).images.lookup file with
  | some id => return id
  | none =>
    let id := (← get).nextImageId
    let type ← typeOf file
    addItem ⟨id, "image/" ++ file, type, payload⟩
    modify fun p => { p with images := p.images ++ [(file, id)] }
    return id

/-- The page becomes an item and goes to the end of the reading order. -/
def pageItem (request : Package.PageRequest) : Routine Unit := do
  let id := Package.pageId request.file
  addItem ⟨id, request.file, "application/xhtml+xml", .text request.content⟩
  modify fun p => { p with pendingSpine := p.pendingSpine ++ [id] }

/-- The page is listed in the guide, if it has a role. -/
def landmark (request : Package.PageRequest) (name : String) : Routine Unit := do
  unless name.isEmpty do
    match Role.ofName? name with
    | none => throw (.unknownRole name)
    | some role =>
      modify fun p => { p with
        guide := p.guide ++ [⟨role.guideType, p.label request, request.file⟩] }

/-- The page is listed in the navigation, if it asks for it. -/
def pageNav (request : Package.PageRequest) : Routine Unit := do
  if request.inNav then
    modify fun p => { p with
      pendingNav := p.pendingNav
        ++ [⟨request.file, p.label request, "nav-" ++ Package.pageId request.file⟩] }

/-- A page: its item, its landmark and its entry in the navigation, in this order. -/
def page (request : Package.PageRequest) : Routine Unit := do
  pageItem request
  landmark request (request.role.getD "")
  pageNav request

/-- The reading order and the navigation are settled, unless they are already. -/
def finalize : Routine Unit := do
  if (← get).finalized then throw .alreadyFinalized
  modify fun p => { p with toc := p.pendingNav }
  modify fun p => { p with spine := p.pendingSpine }
  addItem ⟨"ncx", "toc.ncx", "application/x-dtbncx+xml", .generated⟩
  addItem ⟨"nav", "nav.xhtml", "application/xhtml+xml", .generated⟩
  modify fun p => { p with finalized := true }

section Outcome

variable {α β : Type} (p : Package)

@[simp] theorem outcome_pure (a : α) : outcome (pure a) p = (.ok a, p) := rfl

@[simp] theorem outcome_throw (fault : PackageFault) :
    outcome (throw fault : Routine α) p = (.error fault, p) := rfl

@[simp] theorem outcome_get : outcome get p = (.ok p, p) := rfl

@[simp] theorem outcome_modify (f : Package → Package) : outcome (modify f) p = (.ok (), f p) := rfl

@[simp] theorem outcome_addItem (item : Item) :
    (addItem item).outcome p = (.ok (), p.addItem item) := rfl

/-- A routine goes on where another one answers, and ends where that is refused. -/
theorem outcome_bind (routine : Routine α) (next : α → Routine β) :
    (routine >>= next).outcome p = match routine.outcome p with
      | (.ok a, p') => (next a).outcome p'
      | (.error fault, p') => (.error fault, p') := by
  unfold outcome ExceptT.run StateT.run Id.run
  simp only [bind, ExceptT.bind, ExceptT.mk, StateT.bind]
  cases routine p with
  | mk answer p' => cases answer <;> rfl

end Outcome

/-- What a routine comes to that leaves the package as it was where it is refused. -/
def settled {α : Type} (p : Package) : Except PackageFault (α × Package) →
    Except PackageFault α × Package
  | .ok (a, p') => (.ok a, p')
  | .error fault => (.error fault, p)

section Operations

variable (p : Package)

/-- **A cover** that is refused leaves no trace. -/
theorem outcome_cover (file : String) (payload : Payload) :
    (cover file payload).outcome p = settled p (p.addCoverImage file payload) := by
  unfold cover typeOf Package.addCoverImage
  cases mediaType file with
  | error fault => rfl
  | ok type => rfl

/-- **A picture** that is refused leaves no trace. -/
theorem outcome_image (file : String) (payload : Payload) :
    (image file payload).outcome p = settled p (p.addImage file payload) := by
  unfold image Package.addImage
  simp only [outcome_bind, outcome_get]
  cases p.images.lookup file with
  | some id => rfl
  | none =>
    simp only [outcome_bind, outcome_get, typeOf]
    cases mediaType file with
    | error fault => rfl
    | ok type => rfl

theorem outcome_pageNav (request : Package.PageRequest) :
    (pageNav request).outcome p = (.ok (), p.addPageNav request) := by
  unfold pageNav Package.addPageNav
  cases request.inNav with
  | true => rfl
  | false => rfl

/-- **A page** that is refused stays where it has been put by then. -/
theorem outcome_page (request : Package.PageRequest) :
    (page request).outcome p = match p.addPage request with
      | (p', none) => (.ok (), p')
      | (p', some fault) => (.error fault, p') := by
  have hitem : (pageItem request).outcome p = (.ok (), p.addPageItem request) := rfl
  unfold page Package.addPage landmark
  simp only [outcome_bind, hitem, outcome_pageNav]
  cases request.role with
  | none => rfl
  | some name =>
    simp only [Option.getD_some]
    cases name.isEmpty with
    | true => rfl
    | false =>
      cases Role.ofName? name with
      | none => rfl
      | some role => rfl

/-- **Settling the reading order** a second time leaves no trace. -/
theorem outcome_finalize :
    finalize.outcome p = settled p (p.finalize.map ((), ·)) := by
  unfold finalize Package.finalize
  simp only [outcome_bind, outcome_get]
  cases p.finalized with
  | true => rfl
  | false =>
    simp (disch := decide) only [outcome_bind, outcome_modify, outcome_addItem,
      Package.addItem_of_named, Bool.false_eq_true, if_false]
    rfl

end Operations

end Routine

end Kumihan.Epub
