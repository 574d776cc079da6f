import Mathlib.Data.List.Nodup
import Flotilla.Proofs.Metrics.History
import Flotilla.Proofs.Tables

/-!
# Tokens in a session

A session gives numbers to its tokens as they come up, and keeps the numbers of
those that were fired.  `Follows` says that it does so in step with a history: there
is a book of origins, and the token with a number has the origin that stands at
this place of the book.

* `Follows.step`: every step of a session is followed.
* `Follows.isCancelled_eq`: so the session knows which tokens are cancelled.
-/

namespace Flotilla.Metrics

open Std (ExtTreeMap ExtTreeSet)

/-! ## The book -/

/-- A token has an origin by a book, and so do those it descends from. -/
def Codes (book : List Origin) (t : Token) (o : Origin) : Prop :=
  t.path.map (book[·]?) = o.lineage.map some

/-- A book that goes on still says what it said. -/
theorem Codes.append {book : List Origin} {t : Token} {o : Origin} (h : Codes book t o)
    (more : List Origin) : Codes (book ++ more) t o := by
  unfold Codes at h ⊢
  rw [← h]
  refine List.map_congr_left fun n hn => ?_
  have hsome : book[n]? ∈ o.lineage.map some := h ▸ List.mem_map_of_mem hn
  obtain ⟨o', -, ho⟩ := List.mem_map.mp hsome
  rw [List.getElem?_append_left (List.getElem?_eq_some_iff.mp ho.symm).1]

/-- The first of a lineage is the token itself. -/
theorem Codes.number {book : List Origin} {t : Token} {o : Origin} (h : Codes book t o) :
    book[t.number]? = some o := by
  unfold Codes at h
  cases o with
  | root name => exact (List.cons.inj h).1
  | child place parent => exact (List.cons.inj h).1

/-- A sink is bound as a history has it. -/
inductive Bound (book : List Origin) : Sink → Binding → Prop where
  | free (cluster : String) : Bound book ⟨cluster, none⟩ ⟨cluster, none⟩
  | tied (cluster : String) {t : Token} {o : Origin} (h : Codes book t o) :
      Bound book ⟨cluster, some t⟩ ⟨cluster, some o⟩

theorem Bound.append {book : List Origin} {sink : Sink} {b : Binding} (h : Bound book sink b)
    (more : List Origin) : Bound (book ++ more) sink b := by
  cases h with
  | free cluster => exact .free cluster
  | tied cluster h => exact .tied cluster (h.append more)

theorem rel_append {book : List Origin} {sink : Option Sink} {b : Option Binding}
    (h : Option.Rel (Bound book) sink b) (more : List Origin) :
    Option.Rel (Bound (book ++ more)) sink b := by
  cases h with
  | some h => exact .some (h.append more)
  | none => exact .none

/-- How the tokens and sinks of a session follow a history. -/
structure Follows (s : Session) (h : History) (book : List Origin) : Prop where
  next : s.cancellation.next = book.length
  nodup : book.Nodup
  /-- A child was made at a place of the history. -/
  recent : ∀ k o, .child k o ∈ book → k < h.length
  /-- A name that is bound stands for what it should. -/
  bound : ∀ (name : String) (t : Token), s.tokens[name]? = some t → Codes book t (h.token name)
  /-- A name that is not bound was never made. -/
  unbound : ∀ name : String, s.tokens[name]? = none →
    h.token name = .root name ∧ .root name ∉ book
  /-- The fired tokens are those that were cancelled. -/
  fired : ∀ n, n ∈ s.cancellation.fired ↔ ∃ o, book[n]? = some o ∧ h.fired o = true
  known : ∀ o, h.fired o = true → o ∈ book
  sinks : ∀ name : String, Option.Rel (Bound book) s.sinks[name]? (h.sink? name)

namespace Follows

variable {s s' : Session} {h : History} {book : List Origin}

theorem start : Follows {} [] [] where
  next := rfl
  nodup := List.nodup_nil
  recent k o hk := by cases hk
  bound name t ht := by simp at ht
  unbound name _ := ⟨rfl, List.not_mem_nil⟩
  fired n := by simp
  known o ho := by cases ho
  sinks name := by
    rw [ExtTreeMap.getElem?_empty]
    exact .none

/-- The session knows which tokens are cancelled. -/
theorem isCancelled_eq (hf : Follows s h book) {t : Token} {o : Origin} (ht : Codes book t o) :
    s.cancellation.isCancelled t = h.cancelled o := by
  rw [Bool.eq_iff_iff, Cancellation.isCancelled_eq_true, History.cancelled, List.any_eq_true]
  constructor
  · rintro ⟨n, hn, hfired⟩
    obtain ⟨o', ho', hc⟩ := (hf.fired n).mp hfired
    have hm : book[n]? ∈ o.lineage.map some := ht ▸ List.mem_map_of_mem hn
    obtain ⟨o'', hm, he⟩ := List.mem_map.mp hm
    rw [ho', Option.some.injEq] at he
    exact ⟨o', he ▸ hm, hc⟩
  · rintro ⟨o', ho', hc⟩
    have hm : some o' ∈ t.path.map (book[·]?) := ht ▸ List.mem_map_of_mem ho'
    obtain ⟨n, hn, he⟩ := List.mem_map.mp hm
    exact ⟨n, hn, (hf.fired n).mpr ⟨o', he, hc⟩⟩

/-- A write goes to the cluster of its sink as long as the sink is live. -/
theorem target (hf : Follows s h book) (name : String) :
    (s.sinks[name]? = none ∧ h.target? name = none) ∨
      ∃ sink, s.sinks[name]? = some sink ∧
        h.target? name = if sink.isLive s.cancellation then some sink.cluster else none := by
  have hrel := hf.sinks name
  cases hs : s.sinks[name]? with
  | none =>
    rw [hs] at hrel
    generalize hb : h.sink? name = b at hrel
    cases hrel
    exact Or.inl ⟨rfl, by rw [History.target?, hb]⟩
  | some sink =>
    rw [hs] at hrel
    generalize hb : h.sink? name = b at hrel
    cases hrel with
    | some hbound =>
      refine Or.inr ⟨sink, rfl, ?_⟩
      rw [History.target?, hb]
      cases hbound with
      | free cluster => rfl
      | tied cluster ht =>
        simp only [Sink.isLive, hf.isCancelled_eq ht]
        cases h.cancelled _ <;> rfl

/-! ## Steps -/

/-- A step that touches neither tokens nor sinks. -/
theorem idle (hf : Follows s h book) {step : Step} (hc : s'.cancellation = s.cancellation)
    (ht : s'.tokens = s.tokens) (hs : s'.sinks = s.sinks)
    (htoken : History.token (step :: h) = History.token h)
    (hfired : History.fired (step :: h) = History.fired h)
    (hsink : History.sink? (step :: h) = History.sink? h) : Follows s' (step :: h) book where
  next := by rw [hc]; exact hf.next
  nodup := hf.nodup
  recent k o hk := Nat.lt_succ_of_lt (hf.recent k o hk)
  bound := by rw [ht, htoken]; exact hf.bound
  unbound := by rw [ht, htoken]; exact hf.unbound
  fired := by rw [hc, hfired]; exact hf.fired
  known := by rw [hfired]; exact hf.known
  sinks := by rw [hs, hsink]; exact hf.sinks

/-- A token that comes up. -/
theorem grow (hf : Follows s h book) {o : Origin} (ho : o ∉ book)
    (hs : s'.cancellation = { s.cancellation with next := s.cancellation.next + 1 })
    {h' : History} (hlen : h.length ≤ h'.length) (hrecent : ∀ k p, o = .child k p → k < h'.length)
    (hbound : ∀ (name : String) (t : Token), s'.tokens[name]? = some t →
      Codes (book ++ [o]) t (h'.token name))
    (hunbound : ∀ name : String, s'.tokens[name]? = none →
      h'.token name = .root name ∧ .root name ∉ book ++ [o])
    (hfired : History.fired h' = History.fired h) (hsinks : s'.sinks = s.sinks)
    (hsink : History.sink? h' = History.sink? h) : Follows s' h' (book ++ [o]) where
  next := by rw [hs, List.length_append, ← hf.next]; rfl
  nodup := by
    rw [List.nodup_append]
    refine ⟨hf.nodup, List.nodup_singleton o, ?_⟩
    rintro a ha b hb rfl
    exact ho (List.mem_singleton.mp hb ▸ ha)
  recent k p hk := by
    rcases List.mem_append.mp hk with hk | hk
    · exact Nat.lt_of_lt_of_le (hf.recent k p hk) hlen
    · exact hrecent k p (List.mem_singleton.mp hk).symm
  bound := hbound
  unbound := hunbound
  fired n := by
    rw [hs, hfired]
    refine (hf.fired n).trans ⟨?_, ?_⟩
    · rintro ⟨o', hn, hc⟩
      exact ⟨o', by rw [List.getElem?_append_left (List.getElem?_eq_some_iff.mp hn).1, hn], hc⟩
    · rintro ⟨o', hn, hc⟩
      -- what was cancelled is in the book already, and the new token is not
      rw [List.getElem?_append] at hn
      split at hn
      · exact ⟨o', hn, hc⟩
      · obtain rfl : o' = o := List.mem_singleton.mp (List.mem_of_getElem? hn)
        exact absurd (hf.known o' hc) ho
  known o' hc := by
    rw [hfired] at hc
    exact List.mem_append_left _ (hf.known o' hc)
  sinks name := by
    rw [hsinks, hsink]
    exact rel_append (hf.sinks name) [o]

/-- To name a token gives one of the right origin. -/
theorem naming (hf : Follows s h book) (name : String) :
    ∃ more, Follows (s.token name).2 h (book ++ more) ∧
      Codes (book ++ more) (s.token name).1 (h.token name) := by
  cases ht : s.tokens[name]? with
  | some t =>
    have hs : s.token name = (t, s) := by
      simp only [Session.token, ExtTreeMap.get?_eq_getElem?, ht]
    refine ⟨[], ?_⟩
    rw [hs, List.append_nil]
    exact ⟨hf, hf.bound name t ht⟩
  | none =>
    obtain ⟨hroot, hnew⟩ := hf.unbound name ht
    have hs : s.token name = (⟨s.cancellation.next, []⟩, { s with
        cancellation := { s.cancellation with next := s.cancellation.next + 1 }
        tokens := s.tokens.insert name ⟨s.cancellation.next, []⟩ }) := by
      simp only [Session.token, ExtTreeMap.get?_eq_getElem?, ht]
      rfl
    have hcodes : Codes (book ++ [.root name]) ⟨s.cancellation.next, []⟩ (h.token name) := by
      rw [hroot]
      simp [Codes, Token.path, Origin.lineage, hf.next]
    refine ⟨[.root name], ?_⟩
    rw [hs]
    refine ⟨hf.grow hnew rfl (Nat.le_refl _) nofun ?_ ?_ rfl rfl rfl, hcodes⟩
    · intro name' t ht'
      rw [lookup_insert] at ht'
      split at ht'
      · next he =>
        cases ht'
        rw [← he]
        exact hcodes
      · exact (hf.bound name' t ht').append _
    · intro name' ht'
      rw [lookup_insert] at ht'
      split at ht'
      · cases ht'
      · next hne =>
        obtain ⟨hroot', hnew'⟩ := hf.unbound name' ht'
        refine ⟨hroot', ?_⟩
        rw [List.mem_append, List.mem_singleton, Origin.root.injEq]
        rintro (hm | he)
        · exact hnew' hm
        · exact hne he.symm

/-- A sink is made. -/
theorem addSink (hf : Follows s h book) (name cluster : String) (bound : Option String)
    {sink : Sink} (hb : Bound book sink ⟨cluster, bound.map h.token⟩) :
    Follows (s.addSink name sink) (.sink name cluster bound :: h) book where
  next := hf.next
  nodup := hf.nodup
  recent k o hk := Nat.lt_succ_of_lt (hf.recent k o hk)
  bound := hf.bound
  unbound := hf.unbound
  fired := hf.fired
  known := hf.known
  sinks name' := by
    show Option.Rel (Bound book) (s.sinks.insert name sink)[name']?
      (if name = name' then some ⟨cluster, bound.map h.token⟩ else h.sink? name')
    rw [lookup_insert]
    split
    · exact .some hb
    · exact hf.sinks name'

/-- A child is made of a token. -/
theorem child (hf : Follows s h book) (name parent : String) {p : Token}
    (hp : Codes book p (h.token parent)) :
    Follows { s with
        cancellation := (s.cancellation.child p).2
        tokens := s.tokens.insert name (s.cancellation.child p).1 }
      (.child name parent :: h) (book ++ [.child h.length (h.token parent)]) := by
  have hnew : Origin.child h.length (h.token parent) ∉ book :=
    fun hm => Nat.lt_irrefl _ (hf.recent _ _ hm)
  have hcodes : Codes (book ++ [.child h.length (h.token parent)]) (s.cancellation.child p).1
      (.child h.length (h.token parent)) := by
    have hrest := hp.append [Origin.child h.length (h.token parent)]
    unfold Codes at hrest ⊢
    rw [Origin.lineage, List.map_cons, ← hrest]
    simp [Cancellation.child, Token.path, hf.next]
  have htoken (name' : String) : History.token (.child name parent :: h) name' =
      if name = name' then .child h.length (h.token parent) else h.token name' := rfl
  refine hf.grow hnew rfl (Nat.le_succ _) ?_ ?_ ?_ rfl rfl rfl
  · rintro k o he
    cases he
    exact Nat.lt_succ_self _
  · intro name' t ht
    rw [lookup_insert] at ht
    rw [htoken]
    split at ht
    · next he =>
      cases ht
      rw [if_pos he]
      exact hcodes
    · next he =>
      rw [if_neg he]
      exact (hf.bound name' t ht).append _
  · intro name' ht
    rw [lookup_insert] at ht
    rw [htoken]
    split at ht
    · cases ht
    · next he =>
      obtain ⟨hroot, hn⟩ := hf.unbound name' ht
      rw [if_neg he]
      refine ⟨hroot, ?_⟩
      rw [List.mem_append, List.mem_singleton]
      rintro (hm | hm)
      · exact hn hm
      · cases hm

/-- A token is fired. -/
theorem cancel (hf : Follows s h book) (name : String) {t : Token}
    (ht : Codes book t (h.token name)) :
    Follows { s with cancellation := s.cancellation.fire t } (.cancel name :: h) book := by
  have hfired (o : Origin) : History.fired (.cancel name :: h) o = true ↔
      h.token name = o ∨ h.fired o = true := by
    show (decide (h.token name = o) || h.fired o) = true ↔ _
    rw [Bool.or_eq_true, decide_eq_true_eq]
  have hnum := ht.number
  exact {
    next := hf.next
    nodup := hf.nodup
    recent := fun k o hk => Nat.lt_succ_of_lt (hf.recent k o hk)
    bound := hf.bound
    unbound := hf.unbound
    fired := by
      intro n
      show n ∈ s.cancellation.fired.insert t.number ↔ _
      rw [ExtTreeSet.mem_insert, Std.LawfulEqOrd.compare_eq_iff_eq, hf.fired n]
      constructor
      · rintro (rfl | ⟨o, ho, hc⟩)
        · exact ⟨_, hnum, (hfired _).mpr (Or.inl rfl)⟩
        · exact ⟨o, ho, (hfired o).mpr (Or.inr hc)⟩
      · rintro ⟨o, ho, hc⟩
        rcases (hfired o).mp hc with rfl | hc
        · refine Or.inl ((List.getElem?_inj (List.getElem?_eq_some_iff.mp hnum).1 hf.nodup).mp ?_)
          rw [hnum, ho]
        · exact Or.inr ⟨o, ho, hc⟩
    known := by
      intro o hc
      rcases (hfired o).mp hc with rfl | hc
      · exact List.mem_of_getElem? hnum
      · exact hf.known o hc
    sinks := hf.sinks }

/-- A write changes the store alone. -/
theorem write_rest (s : Session) (name : String) (f : Sink → Cancellation → Store → Store) :
    ∃ store, s.write name f = { s with store } := by
  unfold Session.write
  split
  · exact ⟨_, rfl⟩
  · exact ⟨s.store, rfl⟩

/-- Every step of a session follows the history. -/
theorem step (hf : Follows s h book) (step : Step) :
    ∃ more, Follows (s.step step) (step :: h) (book ++ more) := by
  cases step with
  | sink name cluster bound =>
    cases bound with
    | none =>
      refine ⟨[], ?_⟩
      rw [List.append_nil]
      exact hf.addSink name cluster none (.free cluster)
    | some t =>
      obtain ⟨more, hf', ht⟩ := hf.naming t
      exact ⟨more, hf'.addSink name cluster (some t) (.tied cluster ht)⟩
  | child name parent =>
    obtain ⟨more, hf', hp⟩ := hf.naming parent
    refine ⟨more ++ [.child h.length (h.token parent)], ?_⟩
    rw [← List.append_assoc]
    exact hf'.child name parent hp
  | cancel name =>
    obtain ⟨more, hf', ht⟩ := hf.naming name
    exact ⟨more, hf'.cancel name ht⟩
  | sync name controller =>
    refine ⟨[], ?_⟩
    rw [List.append_nil]
    obtain ⟨store, hs⟩ := write_rest s name fun sink k => sink.recordSync k controller
    rw [show s.step (.sync name controller) = { s with store } from hs]
    exact hf.idle rfl rfl rfl rfl rfl rfl
  | objects name controller n =>
    refine ⟨[], ?_⟩
    rw [List.append_nil]
    obtain ⟨store, hs⟩ := write_rest s name fun sink k => sink.setObjects k controller n
    rw [show s.step (.objects name controller n) = { s with store } from hs]
    exact hf.idle rfl rfl rfl rfl rfl rfl
  | _ =>
    refine ⟨[], ?_⟩
    rw [List.append_nil]
    exact hf.idle rfl rfl rfl rfl rfl rfl

end Follows

end Flotilla.Metrics
