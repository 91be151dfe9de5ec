import Mathlib.Logic.Relation
import WebFetch.Proofs.Url.Objects

/-!
Objects that share URLs. A URL object can be shared, viewed as parameters or taken out of a request,
and each of these links the object that comes of it to the one that it was taken from. A copy of a
URL is linked to nothing, whatever it was made of. The main statement says that nothing but links
matters: what is written through one object is shown at once by every object that links lead to, and
no other object shows anything new.
-/

set_option autoImplicit false

namespace WebFetch

/-- The objects of a program, in the order in which they came about, and what they share. -/
structure UrlObjects where
  session : Session
  items : List UrlObject

namespace UrlObjects
open UrlObject (Opening Link Copy Write)

inductive Action where
  | make (o : Opening)
  | link (i : Nat) (l : Link)
  | copy (i : Nat) (c : Copy)
  | write (i : Nat) (w : Write)

/-- The object that comes of an action, if one does. Where there is no object nothing is done. -/
def Action.run (host : Host) (items : List UrlObject) : Action → Run (Option UrlObject)
  | make o => o.run host
  | link i l => return items[i]?.bind (·.link? l)
  | copy i c =>
    match items[i]? with
    | some x => x.copy host c
    | none => return none
  | write i w =>
    match items[i]? with
    | some x => do x.write w; return none
    | none => return none

def act (host : Host) (d : UrlObjects) (a : Action) : UrlObjects :=
  let outcome := a.run host d.items d.session
  ⟨outcome.2, d.items ++ outcome.1.toList⟩

/-- The link of an action, from the place of the object that was there to that of the new one. -/
def Action.links (d : UrlObjects) : Action → List (Nat × Nat)
  | link i l => if (d.items[i]?.bind (·.link? l)).isSome then [(i, d.items.length)] else []
  | _ => []

def cells (d : UrlObjects) : List UrlRef := d.items.map UrlObject.cell

/-- What the object at a place shows. -/
def view (d : UrlObjects) (j : Nat) : Option UrlObject.Reading :=
  d.items[j]?.map fun x => (x.read d.session).1

/-- The objects that a program can come to have, and the links between them. Between two actions
    anything may happen that leaves every URL and the cell of every object as it is. -/
inductive Arises : List (Nat × Nat) → UrlObjects → Prop where
  | start (s : Session) : Arises [] ⟨s, []⟩
  | act {links : List (Nat × Nat)} {d : UrlObjects} (before : Arises links d) (host : Host)
      (a : Action) : Arises (links ++ a.links d) (d.act host a)
  | elsewhere {links : List (Nat × Nat)} {d d' : UrlObjects} (before : Arises links d)
      (keeps : d.session.Keeps d'.session) (same : d'.cells = d.cells) : Arises links d'

/-! ## Links -/

/-- Places that links lead from one to the other, in either direction. -/
def Connected (links : List (Nat × Nat)) : Nat → Nat → Prop :=
  Relation.EqvGen fun i j => (i, j) ∈ links

theorem Connected.append {links : List (Nat × Nat)} {i j : Nat} (h : Connected links i j)
    (more : List (Nat × Nat)) : Connected (links ++ more) i j :=
  Relation.EqvGen.mono (fun _ _ linked => List.mem_append_left more linked) i j h

/-- Links join places with the same cell, and all of them. -/
structure Partitions (links : List (Nat × Nat)) (cells : List UrlRef) : Prop where
  linked : ∀ i j, (i, j) ∈ links → ∃ u, cells[i]? = some u ∧ cells[j]? = some u
  joined : ∀ i j u, cells[i]? = some u → cells[j]? = some u → Connected links i j

section Partition

variable {links : List (Nat × Nat)} {cells : List UrlRef}

theorem Partitions.cell_eq (p : Partitions links cells) {i j : Nat} (h : Connected links i j) :
    cells[i]? = cells[j]? := by
  induction h with
  | rel i j linked =>
    obtain ⟨u, hi, hj⟩ := p.linked i j linked
    rw [hi, hj]
  | refl i => rfl
  | symm i j _ ih => exact ih.symm
  | trans i j k _ _ first second => exact first.trans second

theorem Partitions.connected_iff (p : Partitions links cells) {i j : Nat} {u v : UrlRef}
    (hi : cells[i]? = some u) (hj : cells[j]? = some v) : Connected links i j ↔ u = v := by
  constructor
  · intro h
    have same := p.cell_eq h
    rw [hi, hj] at same
    exact Option.some.inj same
  · rintro rfl
    exact p.joined i j u hi hj

theorem getElem?_concat {i : Nat} {u v : UrlRef} : (cells ++ [u])[i]? = some v ↔
    cells[i]? = some v ∨ i = cells.length ∧ u = v := by
  rcases Nat.lt_trichotomy i cells.length with below | rfl | above
  · rw [List.getElem?_append_left below]
    simp [Nat.ne_of_lt below]
  · simp
  · have out : (cells ++ [u]).length ≤ i := by
      rw [List.length_append]
      exact above
    rw [List.getElem?_eq_none out, List.getElem?_eq_none (Nat.le_of_lt above)]
    simp [Nat.ne_of_gt above]

/-- A new place with the cell of those that it gets linked to. -/
theorem Partitions.concat (p : Partitions links cells) {u : UrlRef} {more : List (Nat × Nat)}
    (linked : ∀ i j, (i, j) ∈ more → cells[i]? = some u ∧ j = cells.length)
    (joined : ∀ i, cells[i]? = some u → Connected (links ++ more) i cells.length) :
    Partitions (links ++ more) (cells ++ [u]) := by
  constructor
  · intro i j h
    simp only [getElem?_concat]
    rcases List.mem_append.mp h with old | new
    · obtain ⟨v, hi, hj⟩ := p.linked i j old
      exact ⟨v, .inl hi, .inl hj⟩
    · obtain ⟨hi, hj⟩ := linked i j new
      exact ⟨u, .inl hi, .inr ⟨hj, rfl⟩⟩
  · intro i j v hi hj
    rcases getElem?_concat.mp hi with hi | ⟨rfl, rfl⟩
    · rcases getElem?_concat.mp hj with hj | ⟨rfl, rfl⟩
      · exact (p.joined i j v hi hj).append more
      · exact joined i hi
    · rcases getElem?_concat.mp hj with hj | ⟨rfl, _⟩
      · exact .symm _ _ (joined j hj)
      · exact .refl _

theorem Partitions.concat_new (p : Partitions links cells) {u : UrlRef} (new : u ∉ cells) :
    Partitions links (cells ++ [u]) := by
  have whole : Partitions (links ++ []) (cells ++ [u]) := by
    refine p.concat (fun i j absent => ?_) fun i hi => ?_
    · cases absent
    · exact absurd (List.mem_of_getElem? hi) new
  rwa [List.append_nil] at whole

theorem Partitions.concat_linked (p : Partitions links cells) {u : UrlRef} {i : Nat}
    (hi : cells[i]? = some u) : Partitions (links ++ [(i, cells.length)]) (cells ++ [u]) := by
  have link : Connected (links ++ [(i, cells.length)]) i cells.length :=
    .rel i cells.length (List.mem_append_right links List.mem_cons_self)
  refine p.concat (fun j k h => ?_) fun j hj => ?_
  · cases List.mem_singleton.mp h
    exact ⟨hi, rfl⟩
  · exact .trans j i cells.length ((p.joined j i u hj hi).append _) link

/-- A cell that is at the last place only. -/
theorem Partitions.last_alone {u : UrlRef} (p : Partitions links (cells ++ [u])) (new : u ∉ cells)
    {j : Nat} (h : Connected links cells.length j) : j = cells.length := by
  have there : (cells ++ [u])[cells.length]? = some u := List.getElem?_concat_length
  rcases getElem?_concat.mp ((p.cell_eq h).symm.trans there) with old | ⟨last, _⟩
  · exact absurd (List.mem_of_getElem? old) new
  · exact last

end Partition

/-! ## What an action can do -/

/-- The links and the state that come of an action: an object is linked, an object is made in a new
    cell, a cell is written, or nothing happens. -/
inductive Effect (d : UrlObjects) : Action → List (Nat × Nat) → UrlObjects → Prop where
  | link {i : Nat} {l : Link} {x y : UrlObject} (there : d.items[i]? = some x)
      (linked : x.link? l = some y) :
      Effect d (.link i l) [(i, d.items.length)] ⟨d.session, d.items ++ [y]⟩
  | object {a : Action} {y : UrlObject} {value : Url} (new : y.cell = d.session.nextUrl)
      (unlinked : ∀ i l, a ≠ .link i l)
      (copied : ∀ i c, a = .copy i c → ∃ x, d.items[i]? = some x ∧ value = d.session.url x.cell) :
      Effect d a [] ⟨d.session.addUrl value, d.items ++ [y]⟩
  | write {i : Nat} {w : Write} {x : UrlObject} (there : d.items[i]? = some x) (takes : x.Takes w) :
      Effect d (.write i w) []
        ⟨d.session.setUrl x.cell (w.result (d.session.url x.cell)), d.items⟩
  | nothing {a : Action} : Effect d a [] d

section Effects

variable {d : UrlObjects} (host : Host)

theorem Effect.of_makes {a : Action} {value : Url} {outcome : Option UrlObject × Session}
    (made : UrlObject.Makes d.session value outcome) (unlinked : ∀ i l, a ≠ .link i l)
    (copied : ∀ i c, a = .copy i c → ∃ x, d.items[i]? = some x ∧ value = d.session.url x.cell) :
    Effect d a [] ⟨outcome.2, d.items ++ outcome.1.toList⟩ := by
  cases made with
  | object new => exact .object new unlinked copied
  | nothing =>
    rw [Option.toList_none, List.append_nil]
    exact .nothing

theorem act_of_nothing {a : Action} (idle : a.run host d.items d.session = (none, d.session)) :
    d.act host a = d := by
  rw [act, idle, Option.toList_none, List.append_nil]

theorem act_write {i : Nat} {x : UrlObject} (there : d.items[i]? = some x) (w : Write) :
    d.act host (.write i w) = ⟨(x.write w d.session).2, d.items⟩ := by
  have written : x.write w d.session = ((), (x.write w d.session).2) := rfl
  simp only [act, Action.run, there]
  rw [run_bind written]
  exact congrArg (UrlObjects.mk _) (List.append_nil d.items)

theorem effect_link (i : Nat) (l : Link) :
    Effect d (.link i l) (Action.links d (.link i l)) (d.act host (.link i l)) := by
  cases found : d.items[i]?.bind (·.link? l) with
  | none =>
    rw [Action.links, found, act_of_nothing host (by rw [Action.run, found]; rfl)]
    exact .nothing
  | some y =>
    obtain ⟨x, there, linked⟩ := Option.bind_eq_some_iff.mp found
    have added : d.act host (.link i l) = ⟨d.session, d.items ++ [y]⟩ := by
      rw [act, Action.run, found]
      rfl
    rw [Action.links, found, added]
    exact .link there linked

theorem effect_write (i : Nat) (w : Write) :
    Effect d (.write i w) [] (d.act host (.write i w)) := by
  cases there : d.items[i]? with
  | none =>
    rw [act_of_nothing host (by rw [Action.run, there]; rfl)]
    exact .nothing
  | some x =>
    rw [act_write host there]
    by_cases takes : x.Takes w
    · rw [UrlObject.write_run d.session takes]
      exact .write there takes
    · rw [UrlObject.write_run_of_not_takes d.session takes]
      exact .nothing

theorem effect_copy (i : Nat) (c : Copy) : Effect d (.copy i c) [] (d.act host (.copy i c)) := by
  cases there : d.items[i]? with
  | none =>
    rw [act_of_nothing host (by rw [Action.run, there]; rfl)]
    exact .nothing
  | some x =>
    simp only [act, Action.run, there]
    refine .of_makes (x.makes_copy host d.session c) nofun fun j _ same => ?_
    cases same
    exact ⟨x, there, rfl⟩

theorem effect_act (a : Action) : Effect d a (a.links d) (d.act host a) := by
  cases a with
  | make o =>
    obtain ⟨value, made⟩ := o.makes_run host d.session
    refine .of_makes made nofun fun i c same => ?_
    cases same
  | link i l => exact effect_link host i l
  | copy i c => exact effect_copy host i c
  | write i w => exact effect_write host i w

end Effects

/-! ## Runs -/

/-- What every state of a program keeps: the cells of its objects are there, and links join the
    objects of one cell. -/
structure Sound (links : List (Nat × Nat)) (d : UrlObjects) : Prop where
  known : ∀ u ∈ d.cells, d.session.HasUrl u
  partitions : Partitions links d.cells

section Step

variable {links : List (Nat × Nat)} {d : UrlObjects}

theorem getElem?_cells (i : Nat) : d.cells[i]? = d.items[i]?.map UrlObject.cell :=
  List.getElem?_map

theorem Sound.known_of_item (sound : Sound links d) {i : Nat} {x : UrlObject}
    (hi : d.items[i]? = some x) : d.session.HasUrl x.cell :=
  sound.known x.cell (List.mem_map_of_mem (List.mem_of_getElem? hi))

theorem Sound.not_mem_cells (sound : Sound links d) {u : UrlRef} (new : u = d.session.nextUrl) :
    u ∉ d.cells := fun old => Session.not_hasUrl_nextUrl d.session (new ▸ sound.known u old)

theorem Sound.keeps (sound : Sound links d) {d' : UrlObjects}
    (keeps : d.session.Keeps d'.session) (same : d'.cells = d.cells) : Sound links d' := by
  constructor
  · intro u hu
    rw [same] at hu
    exact (keeps u (sound.known u hu)).1
  · rw [same]
    exact sound.partitions

theorem cells_concat (s : Session) (y : UrlObject) :
    UrlObjects.cells ⟨s, d.items ++ [y]⟩ = d.cells ++ [y.cell] :=
  List.map_append

/-- A new object, wherever its cell has come from. -/
theorem Sound.concat (sound : Sound links d) {s : Session} (keeps : d.session.Keeps s)
    {y : UrlObject} (there : s.HasUrl y.cell) {more : List (Nat × Nat)}
    (joined : Partitions (links ++ more) (d.cells ++ [y.cell])) :
    Sound (links ++ more) ⟨s, d.items ++ [y]⟩ := by
  have added := cells_concat (d := d) s y
  constructor
  · intro u hu
    rcases List.mem_append.mp (added ▸ hu) with old | last
    · exact (keeps u (sound.known u old)).1
    · rw [List.mem_singleton.mp last]
      exact there
  · rw [added]
    exact joined

theorem Sound.effect (sound : Sound links d) {a : Action} {more : List (Nat × Nat)}
    {d' : UrlObjects} (effect : Effect d a more d') : Sound (links ++ more) d' := by
  cases effect with
  | @link i l x y there linked =>
    have same := UrlObject.cell_of_link linked
    have shown : d.cells[i]? = some y.cell := by
      rw [getElem?_cells, there, same]
      rfl
    have joined := sound.partitions.concat_linked shown
    rw [cells, List.length_map] at joined
    exact sound.concat (.refl d.session) (same ▸ sound.known_of_item there) joined
  | @object a y value new _ _ =>
    have there : (d.session.addUrl value).HasUrl y.cell :=
      new ▸ Session.hasUrl_addUrl_nextUrl d.session value
    refine sound.concat (.addUrl d.session value) there ?_
    rw [List.append_nil]
    exact sound.partitions.concat_new (sound.not_mem_cells new)
  | @write i w x there takes =>
    rw [List.append_nil]
    exact ⟨fun u hu => (Session.hasUrl_setUrl d.session x.cell u _).mpr (sound.known u hu),
      sound.partitions⟩
  | nothing =>
    rw [List.append_nil]
    exact sound

end Step

theorem Arises.sound {links : List (Nat × Nat)} {d : UrlObjects} (run : Arises links d) :
    Sound links d := by
  induction run with
  | start s => exact ⟨by simp [cells], by simp, by simp [cells]⟩
  | act _ host a ih => exact ih.effect (effect_act host a)
  | elsewhere _ keeps same ih => exact ih.keeps keeps same

/-! ## What objects show -/

section View

variable {links : List (Nat × Nat)} {d : UrlObjects}

theorem view_of_item {j : Nat} {y : UrlObject} (there : d.items[j]? = some y) :
    d.view j = some (y.shows (d.session.url y.cell)) := by
  rw [view, there, Option.map_some, UrlObject.read_run]

/-- The objects that are there show what they showed when another comes. -/
theorem Sound.view_made (sound : Sound links d) {a : Action} {more : List (Nat × Nat)}
    {d' : UrlObjects} (effect : Effect d a more d') {z : UrlObject}
    (made : d'.items = d.items ++ [z]) {j : Nat} (below : j < d.items.length) :
    d'.view j = d.view j := by
  obtain ⟨y, there⟩ : ∃ y, d.items[j]? = some y := ⟨_, List.getElem?_eq_getElem below⟩
  have still : d'.items[j]? = some y := by
    rw [made, List.getElem?_append_left below, there]
  rw [view_of_item there, view_of_item still]
  cases effect with
  | link | nothing => rfl
  | object => rw [Session.url_addUrl_of_hasUrl (sound.known_of_item there)]
  | write => simp at made

theorem Sound.view_write (sound : Sound links d) {i j : Nat} {x y : UrlObject}
    (written : d.items[i]? = some x) (there : d.items[j]? = some y) (value : Url) :
    (Connected links i j →
      view ⟨d.session.setUrl x.cell value, d.items⟩ j = some (y.shows value)) ∧
    (¬ Connected links i j →
      view ⟨d.session.setUrl x.cell value, d.items⟩ j = d.view j) := by
  have shown : view ⟨d.session.setUrl x.cell value, d.items⟩ j =
      some (y.shows ((d.session.setUrl x.cell value).url y.cell)) := view_of_item there
  have hi : d.cells[i]? = some x.cell := by rw [getElem?_cells, written, Option.map_some]
  have hj : d.cells[j]? = some y.cell := by rw [getElem?_cells, there, Option.map_some]
  have same := sound.partitions.connected_iff hi hj
  rw [shown, view_of_item there]
  constructor
  · intro joined
    rw [← same.mp joined, Session.url_setUrl_self (sound.known_of_item written)]
  · intro apart
    rw [Session.url_setUrl_of_ne d.session (fun e => apart (same.mpr e.symm))]

theorem Sound.made (sound : Sound links d) {a : Action} {more : List (Nat × Nat)}
    {d' : UrlObjects} (effect : Effect d a more d') {z : UrlObject}
    (made : d'.items = d.items ++ [z]) :
    (∀ i l, a = .link i l → Connected (links ++ more) i d.items.length) ∧
    (∀ i c, a = .copy i c →
      ∃ x, d.items[i]? = some x ∧ d'.session.url z.cell = d.session.url x.cell) ∧
    ((∀ i l, a ≠ .link i l) →
      ∀ j, Connected (links ++ more) d.items.length j → j = d.items.length) := by
  have after := sound.effect effect
  cases effect with
  | @link i l x y there linked =>
    refine ⟨fun _ _ same => ?_, fun _ _ same => ?_, fun other => absurd rfl (other i l)⟩
    · cases same
      exact .rel i d.items.length (List.mem_append_right links List.mem_cons_self)
    · cases same
  | @object a y value new unlinked copied =>
    cases List.singleton_inj.mp (List.append_cancel_left made)
    refine ⟨fun i l same => absurd same (unlinked i l), fun i c same => ?_, fun _ j h => ?_⟩
    · obtain ⟨x, there, equal⟩ := copied i c same
      refine ⟨x, there, ?_⟩
      rw [new, Session.url_addUrl_nextUrl, equal]
    · have partitions := cells_concat (d := d) (d.session.addUrl value) z ▸ after.partitions
      have length : d.cells.length = d.items.length := List.length_map _
      rw [← length] at h ⊢
      exact partitions.last_alone (sound.not_mem_cells new) h
  | write | nothing => simp at made

end View

/-! ## The whole of it -/

/-- Whatever a program has done, with the links that this has set. What is written through one
    object is what every object shows at once to which links lead, and all others show what they
    showed. Taking an object from another and duplicating a URL never fail. An object that comes
    about changes nothing that is shown: one that was taken from another is linked to it, a copy has
    an equal URL, and one that is no link is connected to none. A text that is no URL changes
    nothing. -/
theorem writes_reach_connected_only {links : List (Nat × Nat)} {d : UrlObjects}
    (run : Arises links d) (host : Host) :
    (∀ i x w, d.items[i]? = some x → x.Takes w →
      (d.act host (.write i w)).items = d.items ∧
      (∃ urls, (d.act host (.write i w)).session = { d.session with urls := urls }) ∧
      ∀ j y, d.items[j]? = some y →
        (Connected links i j →
          (d.act host (.write i w)).view j = some (y.shows (w.result (d.session.url x.cell)))) ∧
        (¬ Connected links i j → (d.act host (.write i w)).view j = d.view j)) ∧
    (∀ i x l y, d.items[i]? = some x → x.link? l = some y →
      ((Action.link i l).run host d.items d.session).1 = some y) ∧
    (∀ i u, d.items[i]? = some (.url u) →
      ((Action.copy i .duplicate).run host d.items d.session).1 = some (.url d.session.nextUrl)) ∧
    (∀ a y, (a.run host d.items d.session).1 = some y →
      (d.act host a).items = d.items ++ [y] ∧
      (∀ j, j < d.items.length → (d.act host a).view j = d.view j) ∧
      (∀ i l, a = .link i l → Connected (links ++ a.links d) i d.items.length) ∧
      (∀ i c, a = .copy i c → ∃ x, d.items[i]? = some x ∧
        (d.act host a).session.url y.cell = d.session.url x.cell) ∧
      ((∀ i l, a ≠ .link i l) →
        ∀ j, Connected (links ++ a.links d) d.items.length j → j = d.items.length)) ∧
    ∀ i u text e, d.items[i]? = some (.url u) → (u.setHref text d.session).1 = .error e →
      d.act host (.write i (.href text)) = d := by
  have sound := run.sound
  refine ⟨fun i x w written takes => ?_, fun i x l y there linked => ?_, fun i u there => ?_,
    fun a y outcome => ?_, fun i u text e written failed => ?_⟩
  · rw [act_write host written, UrlObject.write_run d.session takes]
    exact ⟨rfl, ⟨_, rfl⟩, fun j y there => sound.view_write written there _⟩
  · rw [Action.run, there, Option.bind_some, linked]
    rfl
  · simp only [Action.run, there]
    rfl
  · have effect := effect_act (d := d) host a
    have made : (d.act host a).items = d.items ++ [y] := by rw [act, outcome, Option.toList_some]
    exact ⟨made, fun j below => sound.view_made effect made below, sound.made effect made⟩
  · rw [act_write host written]
    exact congrArg (UrlObjects.mk · d.items) ((UrlObject.setHref_run d.session u text).2 e failed)

/-- A URL has a view, and a request is made of it whose URL is taken out again. An edit of the view
    is shown by the first URL and not by the second. -/
theorem writes_reach_connected_only_of_request :
    let home : Url := ⟨"http", some (.ofHost (.name "h")), false, "/", none, none⟩
    let host : Host := ⟨Utf8.encode, fun _ => [], fun _ _ => ⟨[], []⟩, fun _ => .ok home,
      fun _ _ => .error .aborted⟩
    let d := [Action.make (.parse "http://h/" none), .link 0 .searchParams,
      .copy 0 (.request .empty), .link 2 .parsedUrl].foldl (act host) ⟨.empty, []⟩
    let edited := d.act host (.write 1 (.edit (.append "a" "b")))
    Arises [(0, 1), (2, 3)] d ∧ edited.view 0 = some (.url { home with query := some "a=b" }) ∧
      edited.view 3 = some (.url home) ∧ d.act host (.write 0 (.href "::")) = d := by
  intro home host d edited
  have run : Arises [(0, 1), (2, 3)] d :=
    ((((Arises.start .empty).act host (.make (.parse "http://h/" none))).act host
      (.link 0 .searchParams)).act host (.copy 0 (.request .empty))).act host (.link 2 .parsedUrl)
  have near : Connected [(0, 1), (2, 3)] 1 0 := .symm 0 1 (.rel 0 1 (by decide))
  have apart : ¬ Connected [(0, 1), (2, 3)] 1 3 := fun h =>
    absurd (run.sound.partitions.cell_eq h) (by decide)
  obtain ⟨written, _, _, _, failed⟩ := writes_reach_connected_only run host
  obtain ⟨_, _, shown⟩ := written 1 (.params ⟨⟨0⟩⟩) (.edit (.append "a" "b")) rfl trivial
  refine ⟨run, ?_, ?_, failed 0 ⟨0⟩ "::" _ rfl rfl⟩
  · rw [(shown 0 (.url ⟨0⟩) rfl).1 near]
    rfl
  · rw [(shown 3 (.url ⟨1⟩) rfl).2 apart]
    rfl

end UrlObjects

end WebFetch
