import WebFetch.Proofs.Entries.Edit
import WebFetch.Proofs.Url.Pairs
import WebFetch.SearchParams

/-!
Views of the parameters of one URL. No view keeps a list, and yet after any edits through any of
them all show one and the same list, to which each edit has done what it does to a list. The
`search` of the URL is that list as text, and no other component of the URL ever changes.
-/

set_option autoImplicit false

namespace WebFetch

namespace SearchParams
open Entries (Edit)

def edit (p : SearchParams) : Edit → Run Unit
  | .append name value => p.append name value
  | .delete name => p.delete name
  | .set name value => p.set name value
  | .sort => p.sort

/-- The edits that have led from one session to another, each of them through some view of the URL.
    Between two edits anything may happen that leaves this URL alone. -/
inductive Reaches (u : UrlRef) (start : Session) : List Edit → Session → Prop where
  | start : Reaches u start [] start
  | edit {history : List Edit} {s : Session} (before : Reaches u start history s)
      {p : SearchParams} (view : p.url = u) (e : Edit) :
      Reaches u start (history ++ [e]) (p.edit e s).2
  | elsewhere {history : List Edit} {s t : Session} (before : Reaches u start history s)
      (known : t.HasUrl u) (same : t.url u = s.url u) : Reaches u start history t

/-- What a list becomes by some edits. -/
def replay (history : List Edit) (list : Entries) : Entries :=
  history.foldl (fun list e => e.apply list) list

theorem replay_concat (history : List Edit) (e : Edit) (list : Entries) :
    replay (history ++ [e]) list = e.apply (replay history list) := by
  rw [replay, List.foldl_append]
  rfl

/-! ## One call -/

theorem edit_run (p : SearchParams) (e : Edit) (s : Session) :
    p.edit e s = ((), s.setUrl p.url ((s.url p.url).updatePairs e.apply)) := by
  cases e with
  | append name value | delete name | set name value | sort => rfl

theorem entries_run (p : SearchParams) (s : Session) : p.entries s = ((s.url p.url).pairs, s) := rfl

theorem render_run (p : SearchParams) (s : Session) :
    p.render s = (Form.render (s.url p.url).pairs, s) := rfl

/-! ## What every state keeps -/

/-- What a history says about the URL: its pairs, and that all but the query is as it was. -/
structure Follows (u : UrlRef) (start : Session) (history : List Edit) (s : Session) : Prop where
  known : s.HasUrl u
  pairs_eq : (s.url u).pairs = replay history (start.url u).pairs
  others_eq : ∃ query, s.url u = { start.url u with query := query }

section Step

variable {u : UrlRef} {start s : Session} {history : List Edit}

theorem Follows.hierarchical (f : Follows u start history s)
    (hierarchical : (start.url u).hasOpaquePath = false) :
    (s.url u).hasOpaquePath = false := by
  obtain ⟨query, others⟩ := f.others_eq
  rw [others]
  exact hierarchical

theorem url_edit (known : s.HasUrl u) {p : SearchParams} (view : p.url = u) (e : Edit) :
    (p.edit e s).2.url u = (s.url u).withPairs (e.apply (s.url u).pairs) := by
  rw [edit_run, view]
  exact Session.url_setUrl_self known _

theorem Follows.edit (f : Follows u start history s)
    (hierarchical : (start.url u).hasOpaquePath = false) {p : SearchParams} (view : p.url = u)
    (e : Edit) : Follows u start (history ++ [e]) (p.edit e s).2 := by
  have written := url_edit f.known view e
  constructor
  · rw [edit_run]
    exact (Session.hasUrl_setUrl s p.url u _).mpr f.known
  · rw [written, Url.pairs_withPairs, replay_concat, f.pairs_eq]
  · obtain ⟨query, others⟩ := f.others_eq
    rw [written, Url.withPairs_of_hierarchical (f.hierarchical hierarchical), others]
    exact ⟨_, rfl⟩

theorem Reaches.follows (run : Reaches u start history s) (known : start.HasUrl u)
    (hierarchical : (start.url u).hasOpaquePath = false) : Follows u start history s := by
  induction run with
  | start => exact ⟨known, rfl, (start.url u).query, rfl⟩
  | edit _ view e ih => exact ih.edit hierarchical view e
  | elsewhere _ known same ih =>
    obtain ⟨_, pairs_eq, others_eq⟩ := ih
    rw [← same] at pairs_eq others_eq
    exact ⟨known, pairs_eq, others_eq⟩

end Step

/-- Every edit through any view makes of the list that all views show the one list that it makes of
    a list, and all views show this one then. The search of the URL is the text of the list behind
    a question mark, or nothing for no pairs; every other component stays what it was before the
    first edit. -/
theorem edit_through_any_view {u : UrlRef} {start s : Session} {history : List Edit}
    (known : start.HasUrl u) (hierarchical : (start.url u).hasOpaquePath = false)
    (run : Reaches u start history s) {p : SearchParams} (view : p.url = u) (e : Edit) :
    let s' := (p.edit e s).2
    ∃ before after : Entries,
      before = replay history (start.url u).pairs ∧
      (∀ q : SearchParams, q.url = u → q.entries s = (before, s)) ∧
      (∀ list, e.Makes before list ↔ list = after) ∧
      (∀ q : SearchParams, q.url = u → q.entries s' = (after, s')) ∧
      (∀ q : SearchParams, q.url = u →
        (s'.url u).search = if after = [] then "" else "?" ++ (q.render s').1) ∧
      ∀ c, c ≠ .search → (s'.url u).component c = (start.url u).component c := by
  intro s'
  have f := run.follows known hierarchical
  have f' := f.edit hierarchical view e
  have written := url_edit f.known view e
  have shown : (s'.url u).pairs = e.apply (s.url u).pairs := by
    rw [written, Url.pairs_withPairs]
  refine ⟨(s.url u).pairs, e.apply (s.url u).pairs, f.pairs_eq, ?_, ?_, ?_, ?_, ?_⟩
  · intro q hq
    rw [entries_run, hq]
  · intro list
    exact Edit.makes_iff
  · intro q hq
    rw [entries_run, hq, shown]
  · intro q hq
    rw [render_run, hq, shown, written]
    exact Url.search_withPairs _ _
  · intro c hc
    obtain ⟨query, others⟩ := f'.others_eq
    rw [others]
    exact Url.component_of_query (start.url u) query hc

/-- The first value of a name is overwritten in front of a fragment, and the later one goes. -/
theorem edit_through_any_view_of_fragment :
    let u : UrlRef := ⟨0⟩
    let start : Session :=
      ⟨#[⟨"http", some (.ofHost (.name "h")), false, "/p", none, some "top"⟩], #[], []⟩
    let p : SearchParams := ofUrl u
    let history : List Edit := [.append "b" "2", .append "é" "&=+%", .append "b" "3"]
    let s := (p.edit (.append "b" "3")
      (p.edit (.append "é" "&=+%") (p.edit (.append "b" "2") start).2).2).2
    let s' := (p.edit (.set "b" "9") s).2
    start.HasUrl u ∧ (start.url u).hasOpaquePath = false ∧ Reaches u start history s ∧
      p.url = u ∧ p.entries s' = ([("b", "9"), ("é", "&=+%")], s') ∧ (s'.url u).hash = "#top" := by
  intro u start p history s s'
  have known : start.HasUrl u := Nat.one_pos
  have hierarchical : (start.url u).hasOpaquePath = false := rfl
  have r1 : Reaches u start [.append "b" "2"] _ := .edit .start (p := p) rfl (.append "b" "2")
  have r2 : Reaches u start [.append "b" "2", .append "é" "&=+%"] _ :=
    r1.edit (p := p) rfl (.append "é" "&=+%")
  have run : Reaches u start history s := r2.edit (p := p) rfl (.append "b" "3")
  obtain ⟨before, after, before_eq, _, made, shown, _, others⟩ :=
    edit_through_any_view known hierarchical run (p := p) rfl (.set "b" "9")
  have before_list : before = [] ++ ("b", "2") :: [("é", "&=+%"), ("b", "3")] := before_eq
  rw [before_list] at made
  have overwritten := (made _).mp (.overwrite (by simp) "2" "9" _)
  have after_eq : after = [("b", "9"), ("é", "&=+%")] := by
    rw [← overwritten]
    rfl
  refine ⟨known, hierarchical, run, rfl, ?_, others .hash (by decide)⟩
  rw [shown p rfl, after_eq]

end SearchParams

end WebFetch
