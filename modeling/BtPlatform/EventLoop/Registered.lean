import BtPlatform.EventLoop.Machine

/-!
# The event loop: every item is called once in a pass

`OI_EVENTLOOP_Register` does not store the validate function, so that an item holds what
its memory happens to hold there. In a run in which this is always the function that is
registered, registration and the passes do what they are for, however the functions that
are called register and deregister.
-/

namespace EventLoop

open Linked List Function

/-! ## What registration is for -/

/-- The item was registered with the three functions. -/
def Item.Is (x : Item) (getDescriptors handleEvents validate : Callback) : Prop :=
  x.getDescriptors = getDescriptors ∧ x.handleEvents = handleEvents ∧ x.given = validate

/-- A turn of a pass calls the function that an item of the list was registered with. -/
structure Turned (s s' : Loop) : Prop where
  marker : s'.marker = s.marker
  order : s'.order.Perm s.order
  call : ∃ x ∈ s.order,
    s'.calls = s.calls ++ [⟨x.id, Loop.chosen s.numSet { x with validate := x.given }⟩]

/-- A turn ends the pass: the marker is not in the list, each item that has been registered
during the whole pass has been called once, and these items have kept their order. -/
structure PassEnded (s s' : Loop) : Prop where
  marker : s'.marker = none
  removed : ∃ elems, s'.foreach = some elems ∧ ∀ m ∈ s.marker.map Prod.fst, m ∉ elems
  once : ∀ x ∈ s'.order, x.id ∈ s.atStart → (s.calls.map Call.id).count x.id = 1
  inOrder : ((s'.order.map Item.id).filter (· ∈ s.atStart)).Sublist s.atStart

/-- What an event is to do. -/
def Meets (s : Loop) (event : Event) (status : Support.Status) (s' : Loop) : Prop :=
  match event with
  | .register getDescriptors handleEvents validate _ _ =>
      (status = .ok → ∃ us x vs, s.order = us ++ vs ∧ s'.order = us ++ x :: vs ∧
        x.Is getDescriptors handleEvents validate ∧ x.validate = validate) ∧
      (status ≠ .ok → s' = s)
  | .deregister getDescriptors handleEvents validate =>
      (status = .ok ↔ ∃ x ∈ s.order, x.Is getDescriptors handleEvents validate) ∧
      (status = .ok → ∃ us x vs, s.order = us ++ x :: vs ∧ s'.order = us ++ vs ∧
        x.Is getDescriptors handleEvents validate) ∧
      (status ≠ .ok → s' = s)
  | .startPass _ _ _ => s'.order = s.order ∧ s'.atStart = s.order.map Item.id ∧ s'.calls = []
  | .turn _ => Turned s s' ∨ PassEnded s s'

/-- The memory of a new item already holds the validate function, and nobody deregisters
the marker. -/
def Careful (s : Loop) (event : Event) : Prop :=
  match event with
  | .register getDescriptors handleEvents validate _ malloc =>
      getDescriptors ≠ 0 → handleEvents ≠ 0 → validate ≠ 0 →
        ∀ stale ∈ malloc.map Prod.snd, stale = validate
  | .deregister getDescriptors handleEvents validate =>
      ∀ stale ∈ s.marker.map Prod.snd,
        ¬ (getDescriptors = 0 ∧ handleEvents = 0 ∧ validate = stale)
  | _ => True

/-! ## The invariant -/

/-- The numbers of the registrations. -/
def ids (es : List (Ptr × Item)) : List Nat := es.map fun e => e.2.id

/-- What holds of the items that the pass has still to call and of those behind the
marker. Between two passes the list is cut anywhere. -/
structure Walked (s : Loop) (todo done : List (Ptr × Item)) : Prop where
  items : ∀ e ∈ todo ++ done, s.items e.1 = some e.2
  stored : ∀ e ∈ todo ++ done, e.2.validate = e.2.given ∧ e.2.getDescriptors ≠ 0
  unmarked : ∀ m ∈ s.marker.map Prod.fst, s.items m = none
  room : todo.length + done.length ≤ s.registered
  fresh : ∀ id ∈ ids (todo ++ done) ++ s.atStart ++ s.calls.map Call.id, id < s.registered
  distinct : (ids (todo ++ done)).Nodup
  calledOnce : (s.calls.map Call.id).Nodup
  notYet : ∀ id ∈ ids todo, id ∉ s.calls.map Call.id
  already : ∀ id ∈ ids done, id ∈ s.atStart → id ∈ s.calls.map Call.id
  inOrder : ((ids (done ++ todo)).filter (· ∈ s.atStart)).Sublist s.atStart

/-- The list is a ring of the items, with the marker between them. -/
structure Kept (s : Loop) (todo done : List (Ptr × Item)) : Prop extends Walked s todo done where
  ring : Ring s.links callbackList
    (todo.map Prod.fst ++ (s.marker.map Prod.fst).toList ++ done.map Prod.fst)

theorem kept_init : Kept .init [] [] where
  items := nofun
  stored := nofun
  unmarked := nofun
  room := Nat.le_refl 0
  fresh := nofun
  distinct := nodup_nil
  calledOnce := nodup_nil
  notYet := nofun
  already := nofun
  inOrder := nil_sublist _
  ring := Ring.empty callbackList

variable {s s' : Loop} {todo done us vs : List (Ptr × Item)} {e : Ptr × Item}

theorem filterMap_items (h : ∀ e ∈ us, s.items e.1 = some e.2) :
    (us.map Prod.fst).filterMap s.items = us.map Prod.snd := by
  rw [filterMap_map, ← filterMap_eq_map]
  apply filterMap_congr
  intro e he
  exact h e he

variable {p : Ptr} {todo' done' : List (Ptr × Item)} {g c v : Callback}

namespace Kept

theorem foreach (h : Kept s todo done) : s.foreach =
    some (todo.map Prod.fst ++ (s.marker.map Prod.fst).toList ++ done.map Prod.fst) := by
  apply h.ring.walk
  have hroom := h.room
  have hmarker : (s.marker.map Prod.fst).toList.length ≤ 1 := by
    cases s.marker <;> simp
  simp only [length_append, length_map]
  omega

theorem order (h : Kept s todo done) : s.order = (todo ++ done).map Prod.snd := by
  have hmarker : (s.marker.map Prod.fst).toList.filterMap s.items = [] := by
    have hnone := h.unmarked
    cases hm : s.marker with
    | none => rfl
    | some m =>
        rw [hm] at hnone
        simp [hnone m.1 rfl]
  have htodo := filterMap_items fun e he => h.items e (mem_append_left done he)
  have hdone := filterMap_items fun e he => h.items e (mem_append_right todo he)
  rw [Loop.order, h.foreach, Option.getD_some, filterMap_append, filterMap_append, htodo,
    hmarker, hdone, append_nil, map_append]

theorem map_id_order (h : Kept s todo done) : s.order.map Item.id = ids (todo ++ done) := by
  rw [h.order, map_map]
  rfl

/-- An unused address is not in the ring. -/
theorem notMem_ring (h : Kept s todo done) (hp : s.Unused p) :
    p ∉ callbackList ::
      (todo.map Prod.fst ++ (s.marker.map Prod.fst).toList ++ done.map Prod.fst) := by
  have hitem : ∀ es : List (Ptr × Item), (∀ e ∈ es, s.items e.1 = some e.2) →
      p ∉ es.map Prod.fst := by
    intro es hes hmem
    obtain ⟨e, he, rfl⟩ := mem_map.1 hmem
    have := hes e he
    rw [hp.item] at this
    cases this
  have htodo := hitem todo fun e he => h.items e (mem_append_left done he)
  have hdone := hitem done fun e he => h.items e (mem_append_right todo he)
  have hmarker : p ∉ (s.marker.map Prod.fst).toList := fun hmem =>
    hp.marker (Option.mem_toList.1 hmem)
  rw [mem_cons, mem_append, mem_append]
  rintro (hlist | (hmem | hmem) | hmem)
  · exact hp.list hlist
  · exact htodo hmem
  · exact hmarker hmem
  · exact hdone hmem

end Kept

/-! ## Registration -/

theorem ids_append (us vs : List (Ptr × Item)) : ids (us ++ vs) = ids us ++ ids vs :=
  map_append

/-- A new item, in front of the items to call or behind all the others. -/
theorem Walked.add (h : Walked s todo done) {item : Item} {links : Links Ptr} (hp : s.Unused p)
    (hid : item.id = s.registered) (hstored : item.validate = item.given ∧ item.getDescriptors ≠ 0)
    (hnew : (todo' = (p, item) :: todo ∧ done' = done) ∨
      (todo' = todo ∧ done' = done ++ [(p, item)])) :
    Walked { s with links := links, items := update s.items p (some item),
                    registered := s.registered + 1 } todo' done' := by
  have hmem : ∀ e ∈ todo' ++ done', e = (p, item) ∨ e ∈ todo ++ done := by
    intro e he
    obtain ⟨rfl, rfl⟩ | ⟨rfl, rfl⟩ := hnew
    · exact mem_cons.1 he
    · simp only [mem_append, mem_singleton] at he ⊢
      tauto
  have hperm : (ids (todo' ++ done')).Perm (s.registered :: ids (todo ++ done)) := by
    rw [← hid]
    obtain ⟨rfl, rfl⟩ | ⟨rfl, rfl⟩ := hnew
    · exact .refl _
    · rw [← append_assoc, ids_append]
      exact perm_append_singleton _ _
  have hnot : ∀ id ∈ ids (todo ++ done) ++ s.atStart ++ s.calls.map Call.id, id ≠ s.registered :=
    fun id hmem heq => Nat.lt_irrefl _ (heq ▸ h.fresh id hmem)
  have hstart : s.registered ∉ s.atStart := fun hmem =>
    hnot _ (mem_append_left _ (mem_append_right _ hmem)) rfl
  have hcalls : s.registered ∉ s.calls.map Call.id := fun hmem =>
    hnot _ (mem_append_right _ hmem) rfl
  constructor
  · intro e he
    obtain rfl | hold := hmem e he
    · exact update_self _ _ _
    · have hitem := h.items e hold
      have hne : e.1 ≠ p := by
        rintro rfl
        rw [hp.item] at hitem
        cases hitem
      exact (update_of_ne hne _ _).trans hitem
  · intro e he
    obtain rfl | hold := hmem e he
    · exact hstored
    · exact h.stored e hold
  · intro m hm
    have hne : m ≠ p := by
      rintro rfl
      exact hp.marker (Option.mem_def.1 hm)
    exact (update_of_ne hne _ _).trans (h.unmarked m hm)
  · have hroom := h.room
    obtain ⟨rfl, rfl⟩ | ⟨rfl, rfl⟩ := hnew <;> (simp; omega)
  · intro id hid'
    rw [append_assoc, mem_append, hperm.mem_iff, mem_cons] at hid'
    change id < s.registered + 1
    obtain (rfl | hold) | hold := hid'
    · exact Nat.lt_succ_self _
    · exact Nat.lt_succ_of_lt (h.fresh id (by simp [hold]))
    · exact Nat.lt_succ_of_lt (h.fresh id (by
        rw [append_assoc]
        exact mem_append_right _ hold))
  · rw [hperm.nodup_iff, nodup_cons]
    exact ⟨fun hmem => hnot _ (by simp [hmem]) rfl, h.distinct⟩
  · exact h.calledOnce
  · intro id hid'
    obtain ⟨rfl, rfl⟩ | ⟨rfl, rfl⟩ := hnew
    · obtain rfl | hold := mem_cons.1 hid'
      · exact fun hmem => hcalls (hid ▸ hmem)
      · exact h.notYet id hold
    · exact h.notYet id hid'
  · intro id hid' hin
    obtain ⟨rfl, rfl⟩ | ⟨rfl, rfl⟩ := hnew
    · exact h.already id hid' hin
    · rw [ids_append, mem_append] at hid'
      obtain hold | hnew := hid'
      · exact h.already id hold hin
      · obtain rfl := mem_singleton.1 hnew
        exact absurd (hid ▸ hin) hstart
  · have hsame : (ids (done' ++ todo')).filter (· ∈ s.atStart) =
        (ids (done ++ todo)).filter (· ∈ s.atStart) := by
      obtain ⟨rfl, rfl⟩ | ⟨rfl, rfl⟩ := hnew <;> simp [ids, hid, hstart]
    have hold := h.inOrder
    rw [← hsame] at hold
    exact hold

/-- What `OI_EVENTLOOP_Register` does with memory that holds the validate function. -/
theorem register_kept (h : Kept s todo done) {frequentEvents : Bool} (hg : g ≠ 0) (hc : c ≠ 0)
    (hv : v ≠ 0) (hp : s.Unused p) :
    ∃ x : Item, x.Is g c v ∧ x.validate = v ∧ ∃ s', s.register g c v frequentEvents (some (p, v)) =
      (.ok, s') ∧ ((Kept s' ((p, x) :: todo) done) ∨ (Kept s' todo (done ++ [(p, x)]))) := by
  have hring := h.notMem_ring hp
  refine ⟨⟨g, c, v, s.registered, v⟩, ⟨rfl, rfl, rfl⟩, rfl, ?_⟩
  rw [Loop.register, if_neg (by simp [hg, hc, hv])]
  refine ⟨_, rfl, ?_⟩
  cases frequentEvents with
  | true =>
      left
      exact ⟨h.add hp rfl ⟨rfl, hg⟩ (.inl ⟨rfl, rfl⟩), h.ring.insert_front hring⟩
  | false =>
      right
      refine ⟨h.add hp rfl ⟨rfl, hg⟩ (.inr ⟨rfl, rfl⟩), ?_⟩
      rw [map_append, ← append_assoc]
      exact h.ring.insert_back hring

/-! ## Deregistration -/

/-- Some of the items are gone. -/
theorem Walked.sublist (h : Walked s todo done) {links : Links Ptr} {items : Ptr → Option Item}
    (htodo : todo'.Sublist todo) (hdone : done'.Sublist done)
    (hitems : ∀ e ∈ todo' ++ done', items e.1 = some e.2)
    (hunmarked : ∀ m ∈ s.marker.map Prod.fst, items m = none) :
    Walked { s with links := links, items := items } todo' done' where
  items := hitems
  stored e he := h.stored e ((htodo.append hdone).subset he)
  unmarked := hunmarked
  room := Nat.le_trans (Nat.add_le_add htodo.length_le hdone.length_le) h.room
  fresh id hid := by
    apply h.fresh id
    rw [append_assoc] at hid ⊢
    exact (((htodo.append hdone).map _).append_right _).subset hid
  distinct := h.distinct.sublist ((htodo.append hdone).map _)
  calledOnce := h.calledOnce
  notYet id hid := h.notYet id ((htodo.map _).subset hid)
  already id hid := h.already id ((hdone.map _).subset hid)
  inOrder := (((hdone.append htodo).map _).filter _).trans h.inOrder

theorem listDel_ring {l : Links Ptr} {xs ys : List Ptr} (h : Ring l callbackList (xs ++ p :: ys)) :
    Ring (listDel p l) callbackList (xs ++ ys) := by
  obtain ⟨hnext, hprev⟩ := h.linked
  rw [listDel, if_neg (by simp [hnext, hprev])]
  exact h.unlink

/-- What the search finds in a part of the list that does not hold the marker. -/
theorem search_items {rest : List Ptr} (h : ∀ e ∈ us, s.entry e.1 = some e.2) :
    (∃ us₁ e us₂, us = us₁ ++ e :: us₂ ∧ (e.2.getDescriptors = g ∧ e.2.handleEvents = c ∧
      e.2.validate = v) ∧ s.search g c v (us.map Prod.fst ++ rest) = .ok (some e.1)) ∨
    (∀ e ∈ us, ¬ (e.2.getDescriptors = g ∧ e.2.handleEvents = c ∧ e.2.validate = v)) ∧
      s.search g c v (us.map Prod.fst ++ rest) = s.search g c v rest := by
  induction us with
  | nil => exact .inr ⟨nofun, rfl⟩
  | cons e us ih =>
      have hentry := h e mem_cons_self
      rw [map_cons, cons_append, Loop.search, hentry]
      dsimp only
      by_cases hmatch : e.2.getDescriptors = g ∧ e.2.handleEvents = c ∧ e.2.validate = v
      · rw [if_pos hmatch]
        exact .inl ⟨[], e, us, rfl, hmatch, rfl⟩
      · rw [if_neg hmatch]
        obtain ⟨us₁, e', us₂, rfl, hfound, hsearch⟩ | ⟨hnone, hsearch⟩ :=
            ih fun e he => h e (mem_cons_of_mem _ he)
        · exact .inl ⟨e :: us₁, e', us₂, rfl, hfound, hsearch⟩
        · refine .inr ⟨fun e' he' => ?_, hsearch⟩
          obtain rfl | he' := mem_cons.1 he'
          · exact hmatch
          · exact hnone e' he'

/-- The triple of an item is what it holds. -/
theorem Walked.is_iff (h : Walked s todo done) (he : e ∈ todo ++ done) :
    e.2.Is g c v ↔ e.2.getDescriptors = g ∧ e.2.handleEvents = c ∧ e.2.validate = v := by
  rw [Item.Is, (h.stored e he).1]

theorem Kept.entry (h : Kept s todo done) (he : e ∈ todo ++ done) :
    s.entry e.1 = some e.2 := by
  have hitem := h.items e he
  have hnone := h.unmarked
  unfold Loop.entry
  cases hm : s.marker with
  | none => exact hitem
  | some m =>
      rw [hm] at hnone
      have hne : e.1 ≠ m.1 := by
        intro heq
        rw [heq, hnone m.1 rfl] at hitem
        cases hitem
      exact (if_neg hne).trans hitem

/-- The item of an element is freed. -/
theorem Kept.free (h : Kept s todo done) (xs ys : List Ptr) (htodo : todo'.Sublist todo)
    (hdone : done'.Sublist done)
    (hold : todo.map Prod.fst ++ (s.marker.map Prod.fst).toList ++ done.map Prod.fst =
      xs ++ e.1 :: ys)
    (hnew : todo'.map Prod.fst ++ (s.marker.map Prod.fst).toList ++ done'.map Prod.fst =
      xs ++ ys) :
    Kept { s with links := listDel e.1 s.links
                  items := update s.items e.1 none } todo' done' := by
  have hring := h.ring
  rw [hold] at hring
  obtain ⟨-, hnodup⟩ := nodup_cons.1 hring.nodup
  have hgone : e.1 ∉ xs ++ ys := (nodup_cons.1 (nodup_middle.1 hnodup)).1
  refine ⟨h.sublist htodo hdone ?_ ?_, ?_⟩
  · intro e' he'
    have hne : e'.1 ≠ e.1 := by
      rw [← hnew] at hgone
      intro heq
      apply hgone
      rw [← heq]
      obtain hin | hin := mem_append.1 he'
      · exact mem_append_left _ (mem_append_left _ (mem_map_of_mem hin))
      · exact mem_append_right _ (mem_map_of_mem hin)
    exact (update_of_ne hne _ _).trans (h.items e' ((htodo.append hdone).subset he'))
  · intro m hm
    by_cases hme : m = e.1
    · rw [hme]
      exact update_self _ _ _
    · exact (update_of_ne hme _ _).trans (h.unmarked m hm)
  · change Ring _ _ (todo'.map Prod.fst ++ (s.marker.map Prod.fst).toList ++ done'.map Prod.fst)
    rw [hnew]
    exact listDel_ring hring

/-- The search over the whole list. -/
theorem Kept.search (h : Kept s todo done)
    (hmarker : ∀ stale ∈ s.marker.map Prod.snd, ¬ (g = 0 ∧ c = 0 ∧ v = stale)) :
    (∃ us e vs, ((todo = us ++ e :: vs) ∨ (done = us ++ e :: vs)) ∧ e.2.Is g c v ∧
      s.search g c v (todo.map Prod.fst ++ ((s.marker.map Prod.fst).toList ++ done.map Prod.fst)) =
        .ok (some e.1)) ∨
    (∀ e ∈ todo ++ done, ¬ e.2.Is g c v) ∧
      s.search g c v (todo.map Prod.fst ++ ((s.marker.map Prod.fst).toList ++ done.map Prod.fst)) =
        .ok none := by
  obtain ⟨us, e, vs, rfl, hmatch, hsearch⟩ | ⟨hnone, hsearch⟩ := @search_items s todo g c v
      ((s.marker.map Prod.fst).toList ++ done.map Prod.fst)
        fun e he => h.entry (mem_append_left done he)
  · exact .inl ⟨us, e, vs, .inl rfl, (h.is_iff (by simp)).2 hmatch, hsearch⟩
  · have hskip : s.search g c v ((s.marker.map Prod.fst).toList ++ done.map Prod.fst) =
        s.search g c v (done.map Prod.fst ++ []) := by
      cases hm : s.marker with
      | none => simp
      | some m =>
          rw [hm] at hmarker
          have hentry : s.entry m.1 = some ⟨0, 0, m.2, 0, m.2⟩ := by
            rw [Loop.entry, hm]
            exact if_pos rfl
          have hnot := hmarker m.2 rfl
          rw [Option.map_some, Option.toList_some, singleton_append, append_nil,
            Loop.search, hentry]
          exact if_neg fun hmatch => hnot ⟨hmatch.1.symm, hmatch.2.1.symm, hmatch.2.2.symm⟩
    rw [hsearch, hskip]
    obtain ⟨us, e, vs, rfl, hmatch, hsearch'⟩ | ⟨hnone', hsearch'⟩ := @search_items s done g c v
        [] fun e he => h.entry (mem_append_right todo he)
    · exact .inl ⟨us, e, vs, .inr rfl, (h.is_iff (by simp)).2 hmatch, hsearch'⟩
    · refine .inr ⟨fun e he his => ?_, hsearch'⟩
      have hmatch := (h.is_iff he).1 his
      obtain hin | hin := mem_append.1 he
      · exact hnone e hin hmatch
      · exact hnone' e hin hmatch

/-- What `OI_EVENTLOOP_Deregister` does, unless it finds the marker. -/
theorem deregister_kept (h : Kept s todo done)
    (hmarker : ∀ stale ∈ s.marker.map Prod.snd, ¬ (g = 0 ∧ c = 0 ∧ v = stale)) :
    ∃ status s', s.deregister g c v = .ok (status, s') ∧ Meets s (.deregister g c v) status s' ∧
      ∃ todo' done', Kept s' todo' done' := by
  unfold Loop.deregister
  rw [h.foreach, append_assoc]
  dsimp only
  obtain ⟨us, e, vs, hin, his, hsearch⟩ | ⟨hnone, hsearch⟩ := h.search hmarker
  · have hmem : e ∈ todo ++ done := by
      obtain rfl | rfl := hin <;> simp
    have hne : s.marker.map Prod.fst ≠ some e.1 := by
      intro heq
      have hitem := h.items e hmem
      rw [h.unmarked e.1 heq] at hitem
      cases hitem
    rw [hsearch]
    dsimp only
    rw [if_neg hne]
    refine ⟨.ok, _, rfl, ?_⟩
    have hfree : ∃ us' vs' todo' done', todo ++ done = us' ++ e :: vs' ∧
        todo' ++ done' = us' ++ vs' ∧ Kept { s with
          links := listDel e.1 s.links
          items := update s.items e.1 none } todo' done' := by
      obtain rfl | rfl := hin
      · refine ⟨us, vs ++ done, us ++ vs, done, by simp, by simp, ?_⟩
        apply h.free (us.map Prod.fst)
          (vs.map Prod.fst ++ (s.marker.map Prod.fst).toList ++ done.map Prod.fst)
          ((sublist_cons_self e vs).append_left us) (List.Sublist.refl done)
        · simp only [map_append, map_cons, append_assoc, cons_append]
        · simp only [map_append, append_assoc]
      · refine ⟨todo ++ us, vs, todo, us ++ vs, by simp, by simp, ?_⟩
        apply h.free (todo.map Prod.fst ++ (s.marker.map Prod.fst).toList ++ us.map Prod.fst)
          (vs.map Prod.fst) (List.Sublist.refl todo) ((sublist_cons_self e vs).append_left us)
        · simp only [map_append, map_cons, append_assoc]
        · simp only [map_append, append_assoc]
    obtain ⟨us', vs', todo', done', hsplit, hrest, hkept⟩ := hfree
    refine ⟨⟨iff_of_true rfl ⟨e.2, ?_, his⟩, fun _ => ?_, fun hne => absurd rfl hne⟩,
      todo', done', hkept⟩
    · rw [h.order]
      exact mem_map_of_mem hmem
    · refine ⟨us'.map Prod.snd, e.2, vs'.map Prod.snd, ?_, ?_, his⟩
      · rw [h.order, hsplit, map_append, map_cons]
      · rw [hkept.order, hrest, map_append]
  · rw [hsearch]
    refine ⟨.invalidParameters, s, rfl, ⟨iff_of_false nofun ?_, nofun, fun _ => rfl⟩, todo, done, h⟩
    rintro ⟨x, hx, his⟩
    rw [h.order] at hx
    obtain ⟨e, he, rfl⟩ := mem_map.1 hx
    exact hnone e he his

/-! ## Passes -/

theorem startPass_kept (h : Kept s todo done) (hidle : s.marker = none) {m : Ptr}
    (hm : s.Unused m) (stale : Callback) (numSet : Option Int) :
    Kept (s.startPass m stale numSet) (todo ++ done) [] := by
  have hstart : (s.startPass m stale numSet).atStart = ids (todo ++ done) := h.map_id_order
  have hring := h.ring
  have hnew := h.notMem_ring hm
  rw [hidle] at hring hnew
  constructor
  · constructor
    · simpa [Loop.startPass] using h.items
    · simpa using h.stored
    · rintro _ ⟨⟩
      exact hm.item
    · simpa [Loop.startPass] using h.room
    · intro id hid
      apply h.fresh id
      rw [hstart] at hid
      rw [append_assoc]
      apply mem_append_left
      simpa [Loop.startPass] using hid
    · simpa using h.distinct
    · exact nodup_nil
    · exact nofun
    · exact nofun
    · rw [hstart, nil_append]
      exact filter_sublist
  · have hback := hring.insert_back hnew
    simpa [Loop.startPass, listAddTail] using hback

theorem removeHead_ring {l : Links Ptr} {xs : List Ptr} (h : Ring l callbackList (p :: xs)) :
    listRemoveHead callbackList l = (some p, listDel p l) ∧
      Ring (listDel p l) callbackList xs := by
  have hnext := h.next_head
  have hne : p ≠ callbackList := by
    rintro rfl
    exact (nodup_cons.1 h.nodup).1 mem_cons_self
  refine ⟨?_, @listDel_ring p l [] xs h⟩
  rw [listRemoveHead, hnext, if_neg hne]

/-- The turn that takes the marker. -/
theorem turn_end (h : Kept s [] done) (hpass : s.marker.isSome = true) (result : Int) :
    ∃ s', s.turn result = .ok s' ∧ PassEnded s s' ∧ Kept s' [] done := by
  obtain ⟨⟨m, stale⟩, hm⟩ := Option.isSome_iff_exists.1 hpass
  have hring := h.ring
  rw [hm] at hring
  obtain ⟨hremove, hrest⟩ := removeHead_ring hring
  have hturn : s.turn result = .ok { s with links := listDel m s.links, marker := none } := by
    rw [Loop.turn, hm]
    dsimp only
    rw [hremove]
    exact if_pos rfl
  have hkept : Kept { s with links := listDel m s.links, marker := none } [] done :=
    ⟨{ h.toWalked with unmarked := nofun }, hrest⟩
  refine ⟨_, hturn, ⟨rfl, ⟨_, hkept.foreach, ?_⟩, ?_, ?_⟩, hkept⟩
  · rintro _ hm'
    rw [hm] at hm'
    obtain rfl : m = _ := Option.some.inj hm'
    exact (nodup_cons.1 (nodup_cons.1 hring.nodup).2).1
  · intro x hx hstart
    rw [hkept.order] at hx
    obtain ⟨e, he, rfl⟩ := mem_map.1 hx
    exact count_eq_one_of_mem h.calledOnce (h.already _ (mem_map_of_mem he) hstart)
  · have hinOrder := h.inOrder
    rw [hkept.map_id_order]
    rw [append_nil] at hinOrder
    exact hinOrder

/-- The turn that calls a function of the first item. -/
theorem turn_call (h : Kept s (e :: todo) done) (hpass : s.marker.isSome = true) (result : Int) :
    ∃ s', s.turn result = .ok s' ∧ Turned s s' ∧ Kept s' todo (done ++ [e]) := by
  obtain ⟨⟨m, stale⟩, hm⟩ := Option.isSome_iff_exists.1 hpass
  have hitem : s.items e.1 = some e.2 := h.items e mem_cons_self
  have hne : e.1 ≠ m := by
    intro heq
    rw [heq, h.unmarked m (by rw [hm]; rfl)] at hitem
    cases hitem
  obtain ⟨hremove, hrest⟩ := removeHead_ring h.ring
  have hnodup := h.ring.nodup
  have hback := hrest.insert_back (show e.1 ∉ _ by
    intro hmem
    obtain heq | hmem := mem_cons.1 hmem
    · exact (nodup_cons.1 hnodup).1 (heq ▸ mem_cons_self)
    · exact (nodup_cons.1 (nodup_cons.1 hnodup).2).1 hmem)
  have hturn : s.turn result = .ok { s with
      links := listAddTail e.1 callbackList (listDel e.1 s.links)
      numSet := s.numSet.map fun n => if 0 ≤ n then result else n
      calls := s.calls ++ [⟨e.2.id, Loop.chosen s.numSet e.2⟩] } := by
    rw [Loop.turn, hm]
    dsimp only
    rw [hremove]
    dsimp only
    rw [if_neg hne, hitem]
  have hnot : e.2.id ∉ s.calls.map Call.id := h.notYet _ mem_cons_self
  have hdistinct : e.2.id ∉ ids (todo ++ done) ∧ (ids (todo ++ done)).Nodup :=
    nodup_cons.1 h.distinct
  have hperm : (ids (todo ++ (done ++ [e]))).Perm (ids (e :: todo ++ done)) := by
    rw [← append_assoc]
    exact (perm_append_singleton e (todo ++ done)).map _
  have hcalls : (s.calls ++ [(⟨e.2.id, Loop.chosen s.numSet e.2⟩ : Call)]).map Call.id =
      s.calls.map Call.id ++ [e.2.id] := by simp
  have hmem : ∀ e', e' ∈ todo ++ (done ++ [e]) → e' ∈ e :: todo ++ done := by
    intro e' he'
    simp only [mem_append, cons_append, mem_cons] at he' ⊢
    tauto
  have hkept : Kept { s with
      links := listAddTail e.1 callbackList (listDel e.1 s.links)
      numSet := s.numSet.map fun n => if 0 ≤ n then result else n
      calls := s.calls ++ [⟨e.2.id, Loop.chosen s.numSet e.2⟩] } todo (done ++ [e]) := by
    refine ⟨⟨fun e' he' => h.items e' (hmem e' he'), fun e' he' => h.stored e' (hmem e' he'),
      h.unmarked, ?_, ?_, ?_, ?_, ?_, ?_, ?_⟩, ?_⟩
    · have hroom := h.room
      simp only [length_cons, length_append, length_nil] at hroom ⊢
      omega
    · intro id hid
      apply h.fresh id
      rw [hcalls] at hid
      rw [append_assoc, mem_append, hperm.mem_iff] at hid
      rw [append_assoc, mem_append]
      obtain hid | hid := hid
      · exact .inl hid
      · rw [← append_assoc, mem_append, mem_singleton] at hid
        obtain hid | rfl := hid
        · exact .inr hid
        · exact .inl mem_cons_self
    · rw [hperm.nodup_iff]
      exact h.distinct
    · rw [hcalls, ← concat_eq_append]
      exact h.calledOnce.concat hnot
    · intro id hid
      rw [hcalls, mem_append, mem_singleton]
      rintro (hin | rfl)
      · exact h.notYet id (mem_cons_of_mem _ hid) hin
      · exact hdistinct.1 (by rw [ids_append]; exact mem_append_left _ hid)
    · intro id hid hin
      rw [hcalls, mem_append]
      rw [ids_append, mem_append] at hid
      obtain hid | hid := hid
      · exact .inl (h.already id hid hin)
      · exact .inr hid
    · rw [append_assoc]
      exact h.inOrder
    · have hlist : Ring (listAddTail e.1 callbackList (listDel e.1 s.links)) callbackList
          (todo.map Prod.fst ++ (s.marker.map Prod.fst).toList ++ done.map Prod.fst ++ [e.1]) :=
        hback
      simpa using hlist
  refine ⟨_, hturn, ⟨rfl, ?_, e.2, ?_, ?_⟩, hkept⟩
  · rw [hkept.order, h.order, ← append_assoc]
    exact (perm_append_singleton e (todo ++ done)).map _
  · rw [h.order]
    exact mem_cons_self
  · have hstored := (h.stored e mem_cons_self).1
    rw [← hstored]
    rfl

/-! ## Runs -/

theorem register_meets (h : Kept s todo done) {frequentEvents : Bool}
    {malloc : Option (Ptr × Callback)} (hp : Possible s (.register g c v frequentEvents malloc))
    (hc : Careful s (.register g c v frequentEvents malloc)) :
    ∃ status s', s.register g c v frequentEvents malloc = (status, s') ∧
      Meets s (.register g c v frequentEvents malloc) status s' ∧
        ∃ todo' done', Kept s' todo' done' := by
  by_cases hnull : g = 0 ∨ c = 0 ∨ v = 0
  · exact ⟨.invalidParameters, s, if_pos hnull, ⟨nofun, fun _ => rfl⟩, todo, done, h⟩
  · have hargs : g ≠ 0 ∧ c ≠ 0 ∧ v ≠ 0 := by
      rw [not_or, not_or] at hnull
      exact hnull
    cases malloc with
    | none =>
        exact ⟨.outOfMemory, s, if_neg hnull, ⟨nofun, fun _ => rfl⟩, todo, done, h⟩
    | some block =>
        obtain ⟨p, stale⟩ := block
        obtain rfl : stale = v := hc hargs.1 hargs.2.1 hargs.2.2 stale rfl
        obtain ⟨x, his, hvalidate, s', hrun, hkept⟩ :=
          @register_kept s todo done p g c stale h frequentEvents hargs.1 hargs.2.1 hargs.2.2
            (hp p rfl)
        refine ⟨.ok, s', hrun, ⟨fun _ => ?_, fun hne => absurd rfl hne⟩, ?_⟩
        · obtain hkept | hkept := hkept
          · exact ⟨[], x, s.order, rfl, by rw [hkept.order, h.order]; rfl, his, hvalidate⟩
          · refine ⟨s.order, x, [], (append_nil _).symm, ?_, his, hvalidate⟩
            rw [hkept.order, h.order, ← append_assoc, map_append]
            rfl
        · obtain hkept | hkept := hkept
          · exact ⟨_, _, hkept⟩
          · exact ⟨_, _, hkept⟩

/-- What a careful event does. -/
theorem step_kept (h : Kept s todo done) {event : Event} (hp : Possible s event)
    (hc : Careful s event) : ∃ status s', step s event = .ok (status, s') ∧
      Meets s event status s' ∧ ∃ todo' done', Kept s' todo' done' := by
  cases event with
  | register g c v frequentEvents malloc =>
      obtain ⟨status, s', hrun, hmeets⟩ := register_meets h hp hc
      exact ⟨status, s', congrArg Except.ok hrun, hmeets⟩
  | deregister g c v => exact deregister_kept h hc
  | startPass m stale numSet =>
      have hkept := startPass_kept h hp.1 hp.2 stale numSet
      refine ⟨.ok, _, rfl, ⟨?_, rfl, rfl⟩, _, _, hkept⟩
      rw [hkept.order, h.order, append_nil]
  | turn result =>
      cases todo with
      | nil =>
          obtain ⟨s', hrun, hended, hkept⟩ := turn_end h hp result
          exact ⟨.ok, s', by rw [step, hrun]; rfl, .inr hended, _, _, hkept⟩
      | cons e todo =>
          obtain ⟨s', hrun, hturned, hkept⟩ := turn_call h hp result
          exact ⟨.ok, s', by rw [step, hrun]; rfl, .inl hturned, _, _, hkept⟩

/-- The states of an event loop after careful events. -/
inductive Reaches : Loop → Prop
  | init : Reaches .init
  | step {s s' : Loop} {event : Event} {status : Support.Status} : Reaches s → Possible s event →
      Careful s event → step s event = .ok (status, s') → Reaches s'

theorem Reaches.kept (h : Reaches s) : ∃ todo done, Kept s todo done := by
  induction h with
  | init => exact ⟨[], [], kept_init⟩
  | step _ hp hc hrun ih =>
      obtain ⟨todo, done, hkept⟩ := ih
      obtain ⟨status, s', hrun', -, hkept'⟩ := step_kept hkept hp hc
      rw [hrun] at hrun'
      cases hrun'
      exact hkept'

/-- In a run in which the memory of every new item holds the validate function that is
registered, and nobody deregisters the marker, every event does what it is to do. -/
theorem registration_kept (h : Reaches s) {event : Event} (hp : Possible s event)
    (hc : Careful s event) :
    ∃ status s', step s event = .ok (status, s') ∧ Meets s event status s' := by
  obtain ⟨todo, done, hkept⟩ := h.kept
  obtain ⟨status, s', hrun, hmeets, -⟩ := step_kept hkept hp hc
  exact ⟨status, s', hrun, hmeets⟩

/-- An item is registered, and a pass begins and takes its first turn. -/
theorem registration_kept_turn :
    ∃ s', ((Loop.init.register 1 2 3 false (some (1, 3))).2.startPass 2 0 none).turn 0 = .ok s' ∧
      Meets ((Loop.init.register 1 2 3 false (some (1, 3))).2.startPass 2 0 none) (.turn 0) .ok
        s' := by
  have hregistered : Reaches (Loop.init.register 1 2 3 false (some (1, 3))).2 := by
    refine @Reaches.step _ _ (.register 1 2 3 false (some (1, 3))) .ok .init ?_ ?_ rfl
    · rintro p ⟨⟩
      exact ⟨by decide, rfl, by decide⟩
    · rintro - - - stale ⟨⟩
      rfl
  have hstarted := @Reaches.step _ ((Loop.init.register 1 2 3 false (some (1, 3))).2.startPass 2 0
    none) (.startPass 2 0 none) .ok hregistered ⟨rfl, by decide, rfl, by decide⟩ trivial rfl
  obtain ⟨status, s', hrun, hmeets⟩ := @registration_kept _ hstarted (.turn 0) rfl trivial
  exact ⟨s', by cases hrun; rfl, hmeets⟩

/-- The memory of the item holds no validate function: the item cannot be deregistered. -/
theorem registered_item_not_found :
    ∃ s s', step .init (.register 1 2 3 false (some (1, 0))) = .ok (.ok, s) ∧
      (∃ x ∈ s.order, x.Is 1 2 3) ∧
        step s (.deregister 1 2 3) = .ok (.invalidParameters, s') :=
  ⟨_, _, rfl, ⟨⟨1, 2, 0, 0, 3⟩, mem_singleton.2 rfl, rfl, rfl, rfl⟩, rfl⟩

end EventLoop
