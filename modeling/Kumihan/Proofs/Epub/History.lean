import Kumihan.Proofs.Epub.Pictures
import Kumihan.Proofs.Epub.Routines

/-!
# The pictures of a package over its history

The table of the pictures and the items are filled by the same routine, and the number of a picture
is told by the length of the table.  Whatever else a package is asked for in between, and whatever
is refused, the table has the pictures that were taken, each once and in the order of the first, and
the items have them under the same numbers.

## Main definitions

* `Event`, `history`, `packageAfter` — what happens to a package that is asked for operations.
* `Tracks` — the package has kept track of its pictures.
* `KeepsPictures` — what a package keeps to whatever it was asked for.

## Main results

* `tracks_event`, `tracks_history` — one operation, and all of them.
* `keepsPictures_history` — **the pictures of a package over its history.**
-/

namespace Kumihan.Epub

open Book (mediaType)

/-! ### Events -/

/-- What is done for an operation.  The answer to the cover and to a picture is a name. -/
def Operation.routine : Operation → Routine (Option String)
  | resource id file mediaType payload => do
    Routine.addItem ⟨id, file, mediaType, payload⟩
    return none
  | cover file payload => return some (← Routine.cover file payload)
  | image file payload => return some (← Routine.image file payload)
  | page request => do
    Routine.page request
    return none
  | finalize => do
    Routine.finalize
    return none

/-- An operation that a package was asked for. -/
structure Event where
  /-- The operation. -/
  operation : Operation
  /-- The package before it. -/
  before : Package
  /-- What it has answered, or why it was refused. -/
  answer : Except PackageFault (Option String)
  /-- The package behind it. -/
  after : Package

/-- What happens to a package that is asked for an operation. -/
def Operation.event (operation : Operation) (p : Package) : Event :=
  let (answer, after) := operation.routine.outcome p
  ⟨operation, p, answer, after⟩

/-- What happens to a package that is asked for one operation after the other. -/
def history (p : Package) : List Operation → List Event
  | [] => []
  | operation :: more =>
    let event := operation.event p
    event :: history event.after more

/-- The package behind operations. -/
def packageAfter (p : Package) : List Operation → Package
  | [] => p
  | operation :: more => packageAfter (operation.event p).after more

theorem event_resource (p : Package) (id file type : String) (payload : Payload) :
    (Operation.resource id file type payload).event p
      = ⟨.resource id file type payload, p, .ok none, p.addItem ⟨id, file, type, payload⟩⟩ := rfl

theorem event_cover (p : Package) (file : String) (payload : Payload) :
    (Operation.cover file payload).event p = match p.addCoverImage file payload with
      | .ok (name, q) => ⟨.cover file payload, p, .ok (some name), q⟩
      | .error fault => ⟨.cover file payload, p, .error fault, p⟩ := by
  unfold Operation.event Operation.routine
  simp only [Routine.outcome_bind, Routine.outcome_cover]
  cases p.addCoverImage file payload with
  | error fault => rfl
  | ok result => rfl

theorem event_image (p : Package) (file : String) (payload : Payload) :
    (Operation.image file payload).event p = match p.addImage file payload with
      | .ok (id, q) => ⟨.image file payload, p, .ok (some id), q⟩
      | .error fault => ⟨.image file payload, p, .error fault, p⟩ := by
  unfold Operation.event Operation.routine
  simp only [Routine.outcome_bind, Routine.outcome_image]
  cases p.addImage file payload with
  | error fault => rfl
  | ok result => rfl

theorem event_page (p : Package) (request : Package.PageRequest) :
    ∃ answer, (Operation.page request).event p
      = ⟨.page request, p, answer, (p.addPage request).1⟩ := by
  unfold Operation.event Operation.routine
  simp only [Routine.outcome_bind, Routine.outcome_page]
  rcases p.addPage request with ⟨q, _ | fault⟩
  · exact ⟨_, rfl⟩
  · exact ⟨_, rfl⟩

theorem event_finalize (p : Package) :
    Operation.finalize.event p = match p.finalize with
      | .ok q => ⟨.finalize, p, .ok none, q⟩
      | .error fault => ⟨.finalize, p, .error fault, p⟩ := by
  unfold Operation.event Operation.routine
  simp only [Routine.outcome_bind, Routine.outcome_finalize]
  cases p.finalize with
  | error fault => rfl
  | ok q => rfl

/-! ### Growing -/

/-- A package has grown from another by items alone: its pictures are the same, and it is finalized
if that one was. -/
structure Grown (p q : Package) : Prop where
  images_eq : q.images = p.images
  finalized_eq : q.finalized = p.finalized
  items : p.items <+: q.items

theorem Grown.trans {q r : Package} (h : Grown p q) (h' : Grown q r) : Grown p r :=
  ⟨h'.images_eq.trans h.images_eq, h'.finalized_eq.trans h.finalized_eq, h.items.trans h'.items⟩

theorem grown_addItem (p : Package) (item : Item) : Grown p (p.addItem item) := by
  unfold Package.addItem
  generalize (if item.mediaType.isEmpty then _ else item) = item'
  simp only
  split
  · exact ⟨rfl, rfl, List.prefix_append _ _⟩
  · exact ⟨rfl, rfl, List.prefix_append _ _⟩

theorem grown_addPage (p : Package) (request : Package.PageRequest) :
    Grown p (p.addPage request).1 := by
  have hitem : Grown p (p.addPageItem request) := by
    unfold Package.addPageItem
    simp only
    generalize hq : p.addItem _ = q
    have h : Grown p q := hq ▸ grown_addItem p _
    exact ⟨h.images_eq, h.finalized_eq, h.items⟩
  have hnav (q : Package) : Grown q (q.addPageNav request) := by
    rw [Package.addPageNav_eq]
    exact ⟨rfl, rfl, List.prefix_refl _⟩
  unfold Package.addPage
  generalize p.addPageItem request = q at hitem ⊢
  simp only
  split
  · exact hitem.trans (hnav q)
  · split
    · exact hitem.trans (hnav q)
    · split
      · exact hitem
      · next role _ =>
        have hguide (entries : List GuideEntry) : Grown q { q with guide := entries } :=
          ⟨rfl, rfl, List.prefix_refl _⟩
        exact hitem.trans ((hguide _).trans (hnav _))

theorem grown_addCoverImage {p q : Package} {file name : String} {payload : Payload}
    (h : p.addCoverImage file payload = .ok (name, q)) : Grown p q := by
  unfold Package.addCoverImage at h
  split at h
  · contradiction
  · simp only at h
    generalize hq : p.addItem _ = q' at h
    have hitem : Grown p q' := hq ▸ grown_addItem p _
    obtain ⟨-, rfl⟩ := Prod.mk.inj (Except.ok.inj h)
    exact ⟨hitem.images_eq, hitem.finalized_eq, hitem.items⟩

/-! ### Pictures -/

namespace Event

/-- A picture that the package has taken, or had. -/
def packaged? (event : Event) : Option (String × Payload) :=
  match event.operation, event.answer with
  | .image file payload, .ok _ => some (file, payload)
  | _, _ => none

/-- The items that the package has been given as pictures. -/
def newPictures (event : Event) : List Item :=
  match event.operation with
  | .image _ _ => event.after.items.drop event.before.items.length
  | _ => []

end Event

/-- The pictures that a package has taken, or had, with what it was given for them. -/
def packaged (events : List Event) : List (String × Payload) := events.filterMap (·.packaged?)

/-- The pictures that a package has taken, each once and in the order of the first. -/
def pictureNames (events : List Event) : List String := ((packaged events).map (·.1)).eraseDups

/-- The item of a picture: it has the id of its number, and holds what was given for the picture
first. -/
structure IsPackaged (given : List (String × Payload)) (picture : String × Nat) (item : Item) :
    Prop where
  id_eq : item.id = imageId picture.2
  file_eq : item.file = "image/" ++ picture.1
  mediaType_eq : mediaType picture.1 = .ok item.mediaType
  payload_eq : given.lookup picture.1 = some item.payload

/-- A package has kept track of the pictures that it was given. -/
structure Tracks (events : List Event) (p : Package) : Prop where
  /-- The table of the pictures: their names with the ids of their numbers. -/
  images_eq : p.images = ((pictureNames events).zipIdx 1).map fun picture =>
    (picture.1, imageId picture.2)
  /-- The items of the pictures. -/
  items : List.Forall₂ (IsPackaged (packaged events)) ((pictureNames events).zipIdx 1)
    (events.flatMap (·.newPictures))
  /-- The package still has them. -/
  sublist : (events.flatMap (·.newPictures)).Sublist p.items
  /-- No item has been lost or changed on the way. -/
  grown : ∀ event ∈ events, event.before.items <+: event.after.items
  /-- The types of the pictures are supported. -/
  supported : ∀ file ∈ pictureNames events, ∃ type, mediaType file = .ok type
  /-- Where a picture was asked for, the answer was what the table says. -/
  answered : ∀ event ∈ events, ∀ file payload answer, event.operation = .image file payload →
    event.answer = .ok answer → ∃ id, answer = some id ∧ p.images.lookup file = some id
  /-- The package is finalized once it has been asked to be. -/
  finalized_iff : p.finalized = true ↔ ∃ event ∈ events, event.operation = .finalize

/-! ### One operation after the other -/

section Steps

variable {p : Package} {events : List Event}

theorem map_fst_images (h : Tracks events p) : p.images.map (·.1) = pictureNames events := by
  rw [h.images_eq, List.map_map]
  exact List.zipIdx_map_fst 1 _

theorem hasImage_iff_mem (h : Tracks events p) (file : String) :
    p.hasImage file = true ↔ file ∈ pictureNames events := by
  rw [← map_fst_images h]
  exact lookup_isSome_iff _ _

theorem mem_pictureNames {file : String} :
    file ∈ pictureNames events ↔ ∃ payload, (file, payload) ∈ packaged events := by
  unfold pictureNames
  rw [List.mem_eraseDups, List.mem_map]
  constructor
  · rintro ⟨⟨name, payload⟩, hmem, rfl⟩
    exact ⟨payload, hmem⟩
  · rintro ⟨payload, hmem⟩
    exact ⟨_, hmem, rfl⟩

/-- **An operation that packages no picture** leaves the pictures as they are. -/
theorem Tracks.unpacked {event : Event} (h : Tracks events event.before)
    (hpackaged : event.packaged? = none) (hpictures : event.newPictures = [])
    (himages : event.after.images = event.before.images)
    (hitems : event.before.items <+: event.after.items)
    (hfinalized : event.after.finalized = true
      ↔ event.before.finalized = true ∨ event.operation = .finalize) :
    Tracks (events ++ [event]) event.after := by
  have hgiven : packaged (events ++ [event]) = packaged events := by
    unfold packaged
    rw [filterMap_concat, hpackaged, Option.toList_none, List.append_nil]
  have hnames : pictureNames (events ++ [event]) = pictureNames events := by
    rw [pictureNames, hgiven, pictureNames]
  have hnew : (events ++ [event]).flatMap (·.newPictures) = events.flatMap (·.newPictures) := by
    rw [List.flatMap_append, List.flatMap_singleton, hpictures, List.append_nil]
  refine ⟨?_, ?_, ?_, ?_, ?_, ?_, ?_⟩
  · rw [himages, hnames, h.images_eq]
  · rw [hgiven, hnames, hnew]
    exact h.items
  · rw [hnew]
    exact h.sublist.trans hitems.sublist
  · intro e he
    rcases List.mem_append.mp he with he | he
    · exact h.grown e he
    · rwa [List.mem_singleton.mp he]
  · rw [hnames]
    exact h.supported
  · rw [himages]
    intro e he file payload answer hoperation hanswer
    rcases List.mem_append.mp he with he | he
    · exact h.answered e he file payload answer hoperation hanswer
    · rw [List.mem_singleton.mp he] at hoperation hanswer
      simp [Event.packaged?, hoperation, hanswer] at hpackaged
  · rw [hfinalized, h.finalized_iff]
    simp [or_and_right, exists_or]

theorem Tracks.other {event : Event} (h : Tracks events event.before)
    (hpicture : ∀ file payload, event.operation ≠ .image file payload)
    (himages : event.after.images = event.before.images)
    (hitems : event.before.items <+: event.after.items)
    (hfinalized : event.after.finalized = true
      ↔ event.before.finalized = true ∨ event.operation = .finalize) :
    Tracks (events ++ [event]) event.after := by
  have hnone : event.packaged? = none ∧ event.newPictures = [] := by
    unfold Event.packaged? Event.newPictures
    cases hoperation : event.operation with
    | image file payload => exact absurd hoperation (hpicture file payload)
    | _ => exact ⟨rfl, rfl⟩
  exact h.unpacked hnone.1 hnone.2 himages hitems hfinalized

theorem IsPackaged.mono {given more : List (String × Payload)} {picture : String × Nat}
    {item : Item} (h : IsPackaged given picture item) :
    IsPackaged (given ++ more) picture item := by
  refine ⟨h.id_eq, h.file_eq, h.mediaType_eq, ?_⟩
  rw [List.lookup_append, h.payload_eq, Option.some_or]

theorem packaged_concat (events : List Event) (file : String) (payload : Payload) (p q : Package)
    (answer : Option String) :
    packaged (events ++ [⟨.image file payload, p, .ok answer, q⟩])
      = packaged events ++ [(file, payload)] := by
  unfold packaged
  rw [filterMap_concat]
  rfl

theorem pictureNames_concat (events : List Event) (file : String) (payload : Payload)
    (p q : Package) (answer : Option String) :
    pictureNames (events ++ [⟨.image file payload, p, .ok answer, q⟩])
      = if file ∈ pictureNames events then pictureNames events
        else pictureNames events ++ [file] := by
  rw [pictureNames, packaged_concat, List.map_append, List.map_singleton, eraseDups_concat]
  simp only [pictureNames, List.mem_eraseDups]

/-- **A picture that is there** changes nothing. -/
theorem Tracks.known {file id : String} (h : Tracks events p)
    (hlookup : p.images.lookup file = some id) (payload : Payload) :
    Tracks (events ++ [⟨.image file payload, p, .ok (some id), p⟩]) p := by
  have hmem : file ∈ pictureNames events := by
    rw [← hasImage_iff_mem h, Package.hasImage, hlookup]
    rfl
  have hnames := pictureNames_concat events file payload p p (some id)
  rw [if_pos hmem] at hnames
  have hnew : (⟨.image file payload, p, .ok (some id), p⟩ : Event).newPictures = [] :=
    List.drop_length
  refine ⟨?_, ?_, ?_, ?_, ?_, ?_, ?_⟩
  · rw [hnames, h.images_eq]
  · rw [packaged_concat, hnames, List.flatMap_append, List.flatMap_singleton, hnew, List.append_nil]
    exact h.items.imp fun _ _ hitem => hitem.mono
  · rw [List.flatMap_append, List.flatMap_singleton, hnew, List.append_nil]
    exact h.sublist
  · intro e he
    rcases List.mem_append.mp he with he | he
    · exact h.grown e he
    · rw [List.mem_singleton.mp he]
  · rw [hnames]
    exact h.supported
  · intro e he name payload' answer hoperation hanswer
    rcases List.mem_append.mp he with he | he
    · exact h.answered e he name payload' answer hoperation hanswer
    · obtain rfl := List.mem_singleton.mp he
      obtain ⟨rfl, rfl⟩ := Operation.image.inj hoperation
      exact ⟨id, (Except.ok.inj hanswer).symm, hlookup⟩
  · rw [h.finalized_iff]
    simp [or_and_right, exists_or]

/-- **A picture that is new** is an item behind the others, with the next number. -/
theorem Tracks.new {file type : String} (h : Tracks events p)
    (hlookup : p.images.lookup file = none) (htype : mediaType file = .ok type)
    (payload : Payload) {q : Package}
    (hq : q = { p with
      items := p.items ++ [⟨p.nextImageId, "image/" ++ file, type, payload⟩]
      images := p.images ++ [(file, p.nextImageId)] }) :
    Tracks (events ++ [⟨.image file payload, p, .ok (some p.nextImageId), q⟩]) q := by
  have hmem : file ∉ pictureNames events := by
    rw [← hasImage_iff_mem h, Package.hasImage, hlookup]
    exact Bool.false_ne_true
  have hnames := pictureNames_concat events file payload p q (some p.nextImageId)
  rw [if_neg hmem] at hnames
  have hid : p.nextImageId = imageId (1 + (pictureNames events).length) := by
    rw [← map_fst_images h, List.length_map, Nat.add_comm]
    rfl
  have hnew : (⟨.image file payload, p, .ok (some p.nextImageId), q⟩ : Event).newPictures
      = [⟨p.nextImageId, "image/" ++ file, type, payload⟩] := by
    simp only [Event.newPictures, hq, List.drop_left]
  have hfresh : (packaged events).lookup file = none := by
    rw [← Option.not_isSome_iff_eq_none, lookup_isSome_iff]
    rwa [pictureNames, List.mem_eraseDups] at hmem
  refine ⟨?_, ?_, ?_, ?_, ?_, ?_, ?_⟩
  · rw [hnames, List.zipIdx_append, List.map_append, ← h.images_eq, hq, hid]
    rfl
  · rw [packaged_concat, hnames, List.flatMap_append, List.flatMap_singleton, hnew,
      List.zipIdx_append]
    refine List.rel_append (h.items.imp fun _ _ hitem => hitem.mono) ?_
    refine .cons ⟨hid, rfl, htype, ?_⟩ .nil
    simp [List.lookup_append, hfresh]
  · rw [List.flatMap_append, List.flatMap_singleton, hnew, hq]
    exact h.sublist.append (List.Sublist.refl _)
  · intro e he
    rcases List.mem_append.mp he with he | he
    · exact h.grown e he
    · rw [List.mem_singleton.mp he, hq]
      exact List.prefix_append _ _
  · rw [hnames]
    intro name hname
    rcases List.mem_append.mp hname with hname | hname
    · exact h.supported name hname
    · rw [List.mem_singleton.mp hname]
      exact ⟨type, htype⟩
  · intro e he name payload' answer hoperation hanswer
    rw [hq]
    simp only [List.lookup_append]
    rcases List.mem_append.mp he with he | he
    · obtain ⟨id, hanswered, hthere⟩ := h.answered e he name payload' answer hoperation hanswer
      exact ⟨id, hanswered, by rw [hthere, Option.some_or]⟩
    · obtain rfl := List.mem_singleton.mp he
      obtain ⟨rfl, rfl⟩ := Operation.image.inj hoperation
      exact ⟨p.nextImageId, (Except.ok.inj hanswer).symm, by simp [hlookup]⟩
  · rw [hq]
    simp only [h.finalized_iff]
    simp [or_and_right, exists_or]

/-- **One more operation.** -/
theorem tracks_event (h : Tracks events p) (operation : Operation) :
    Tracks (events ++ [operation.event p]) (operation.event p).after := by
  cases operation with
  | resource id file type payload =>
    have hgrown := grown_addItem p ⟨id, file, type, payload⟩
    rw [event_resource]
    refine Tracks.other h (by simp) hgrown.images_eq hgrown.items ?_
    simp only [hgrown.finalized_eq]
    simp
  | cover file payload =>
    rw [event_cover]
    cases hcover : p.addCoverImage file payload with
    | error fault =>
      simp only
      refine Tracks.other h (by simp) rfl (List.prefix_refl _) ?_
      simp
    | ok result =>
      have hgrown := grown_addCoverImage hcover
      simp only
      refine Tracks.other h (by simp) hgrown.images_eq hgrown.items ?_
      simp only [hgrown.finalized_eq]
      simp
  | image file payload =>
    rw [event_image]
    cases hlookup : p.images.lookup file with
    | some id =>
      simp only [Package.addImage, hlookup]
      exact h.known hlookup payload
    | none =>
      cases htype : mediaType file with
      | error fault =>
        simp only [Package.addImage, hlookup, htype]
        refine Tracks.unpacked h rfl ?_ rfl (List.prefix_refl _) ?_
        · exact List.drop_length
        · simp
      | ok type =>
        rw [addImage_of_new htype hlookup]
        exact h.new hlookup htype payload rfl
  | page request =>
    have hgrown := grown_addPage p request
    obtain ⟨answer, hevent⟩ := event_page p request
    rw [hevent]
    refine Tracks.other h (by simp) hgrown.images_eq hgrown.items ?_
    simp only [hgrown.finalized_eq]
    simp
  | finalize =>
    rw [event_finalize]
    cases hfinalized : p.finalized with
    | true =>
      simp only [Package.finalize, hfinalized, if_true]
      refine Tracks.other h (by simp) rfl (List.prefix_refl _) ?_
      simp [hfinalized]
    | false =>
      rw [Package.finalize_of_open hfinalized]
      simp only
      refine Tracks.other h (by simp) rfl ?_ ?_
      · simp only [List.append_assoc]
        exact List.prefix_append _ _
      · simp

/-- The package that a plan opens has no pictures. -/
theorem tracks_ofPlan (plan : BookPlan) : Tracks [] (Package.ofPlan plan) := by
  have hnames : pictureNames [] = [] := rfl
  refine ⟨?_, ?_, List.nil_sublist _, ?_, ?_, ?_, ?_⟩
  · rw [hnames]
    rfl
  · rw [hnames]
    exact .nil
  · exact fun event hevent => absurd hevent List.not_mem_nil
  · rw [hnames]
    exact fun file hfile => absurd hfile List.not_mem_nil
  · exact fun event hevent => absurd hevent List.not_mem_nil
  · simp [Package.ofPlan]

/-- **All operations**, one after the other. -/
theorem tracks_history (h : Tracks events p) (operations : List Operation) :
    Tracks (events ++ history p operations) (packageAfter p operations) := by
  induction operations generalizing events p with
  | nil => rwa [history, List.append_nil]
  | cons operation more ih =>
    have hmore := ih (tracks_event h operation)
    rwa [List.append_assoc] at hmore

/-- The pictures that have been taken are those that were answered. -/
theorem mem_pictureNames_iff {file : String} :
    file ∈ pictureNames events ↔ ∃ event ∈ events, ∃ payload answer,
      event.operation = .image file payload ∧ event.answer = .ok answer := by
  rw [mem_pictureNames]
  simp only [packaged, List.mem_filterMap]
  constructor
  · rintro ⟨payload, event, hevent, hpackaged⟩
    unfold Event.packaged? at hpackaged
    split at hpackaged
    · next name given answer hoperation hanswer =>
      obtain ⟨rfl, rfl⟩ := Prod.mk.inj (Option.some.inj hpackaged)
      exact ⟨event, hevent, _, answer, hoperation, hanswer⟩
    · contradiction
  · rintro ⟨event, hevent, payload, answer, hoperation, hanswer⟩
    exact ⟨payload, event, hevent, by simp [Event.packaged?, hoperation, hanswer]⟩

/-- A picture of a supported type is taken, whether or not it is there. -/
theorem exists_answer_image {file : String} {type : String} (htype : mediaType file = .ok type)
    (p : Package) (payload : Payload) :
    ∃ id, ((Operation.image file payload).event p).answer = .ok (some id) := by
  rw [event_image]
  cases hlookup : p.images.lookup file with
  | some id =>
    simp only [Package.addImage, hlookup]
    exact ⟨id, rfl⟩
  | none =>
    rw [addImage_of_new htype hlookup]
    exact ⟨p.nextImageId, rfl⟩

/-- A picture that has been taken is answered as it was. -/
theorem Tracks.event_again (h : Tracks events p) {event : Event} (hevent : event ∈ events)
    {file : String} {payload : Payload} {answer : Option String}
    (hoperation : event.operation = .image file payload) (hanswer : event.answer = .ok answer)
    (payload' : Payload) :
    (Operation.image file payload').event p = ⟨.image file payload', p, .ok answer, p⟩ := by
  obtain ⟨id, rfl, hlookup⟩ := h.answered event hevent file payload answer hoperation hanswer
  rw [event_image]
  simp only [Package.addImage, hlookup]

/-- A picture or a cover of another type is refused: no picture of such a type is there. -/
theorem Tracks.event_unsupported (h : Tracks events p) {file : String}
    {fault : Book.UnsupportedPicture} (htype : mediaType file = .error fault) (payload : Payload) :
    (Operation.image file payload).event p
        = ⟨.image file payload, p, .error (.unsupportedPicture fault), p⟩
      ∧ (Operation.cover file payload).event p
        = ⟨.cover file payload, p, .error (.unsupportedPicture fault), p⟩ := by
  have hlookup : p.images.lookup file = none := by
    rw [← Option.not_isSome_iff_eq_none]
    intro hthere
    obtain ⟨type, hsupported⟩ := h.supported file ((hasImage_iff_mem h file).mp hthere)
    rw [htype] at hsupported
    contradiction
  rw [event_image, event_cover]
  constructor
  · simp only [Package.addImage, hlookup, htype]
  · simp only [Package.addCoverImage, htype]

/-- A package that has been asked to be finalized refuses to be so again. -/
theorem Tracks.event_finalized (h : Tracks events p) {event : Event} (hevent : event ∈ events)
    (hoperation : event.operation = .finalize) :
    Operation.finalize.event p = ⟨.finalize, p, .error .alreadyFinalized, p⟩ := by
  rw [event_finalize]
  simp only [Package.finalize, h.finalized_iff.mpr ⟨event, hevent, hoperation⟩, if_true]

end Steps

/-- What a package keeps to whatever it was asked for. -/
structure KeepsPictures (events : List Event) (p : Package) : Prop extends Tracks events p where
  /-- A picture is there exactly if it has been taken. -/
  hasImage_iff : ∀ file, p.hasImage file = true ↔ ∃ event ∈ events, ∃ payload answer,
    event.operation = .image file payload ∧ event.answer = .ok answer
  /-- A picture of a supported type is taken. -/
  taken : ∀ file payload type, mediaType file = .ok type →
    ∃ id, ((Operation.image file payload).event p).answer = .ok (some id)
  /-- A picture that has been taken is answered as it was, and nothing changes. -/
  again : ∀ event ∈ events, ∀ file payload answer, event.operation = .image file payload →
    event.answer = .ok answer → ∀ payload', (Operation.image file payload').event p
      = ⟨.image file payload', p, .ok answer, p⟩
  /-- A picture or a cover of another type is refused, and nothing changes. -/
  unsupported : ∀ file payload fault, mediaType file = .error fault →
    (Operation.image file payload).event p
        = ⟨.image file payload, p, .error (.unsupportedPicture fault), p⟩
      ∧ (Operation.cover file payload).event p
        = ⟨.cover file payload, p, .error (.unsupportedPicture fault), p⟩
  /-- A package that has been asked to be finalized refuses to be so again, and nothing changes. -/
  finalizedOnce : ∀ event ∈ events, event.operation = .finalize →
    Operation.finalize.event p = ⟨.finalize, p, .error .alreadyFinalized, p⟩

/-- **The pictures of a package**, whatever it is asked for and in whatever order.  Each is packaged
once, under the next number, with what was given for it first; asked for again, it is answered as it
was.  What is refused for its type, or because it is finalized, changes nothing. -/
theorem keepsPictures_history (plan : BookPlan) (operations : List Operation) :
    KeepsPictures (history (.ofPlan plan) operations) (packageAfter (.ofPlan plan) operations) := by
  have h := tracks_history (tracks_ofPlan plan) operations
  rw [List.nil_append] at h
  generalize history (.ofPlan plan) operations = events at h ⊢
  generalize packageAfter (.ofPlan plan) operations = p at h ⊢
  exact
    { h with
      hasImage_iff := fun file => (hasImage_iff_mem h file).trans mem_pictureNames_iff
      taken := fun _ payload _ htype => exists_answer_image htype p payload
      again := fun _ hevent _ _ _ hoperation hanswer => h.event_again hevent hoperation hanswer
      unsupported := fun _ payload _ htype => h.event_unsupported htype payload
      finalizedOnce := fun _ hevent hoperation => h.event_finalized hevent hoperation }

end Kumihan.Epub
