import BtPlatform.Gatt.Client.Guarded

/-!
# Reliable writes of several clients

The library knows the devices to which writes are collected by their address alone. The
clients that have begun a reliable write on an open connection are followed beside it.
-/

namespace Gatt.ClientLib

open Support List

variable {C : Type} {s s' : ClientLib C} {w : List Link}

/-- The clients with a reliable write on their connection to an address. -/
abbrev Begun : Type := Int → String → Prop

/-- After an event, which is a call of `caller` if it is a beginning. A reliable write is over
with its end, and with its connection. -/
def begunAfter (w : List Link) (begun : Begun) (caller : Int) : Event C → Begun
  | .beginReliableWrite address => fun clientIf' address' => begun clientIf' address' ∨
      clientIf' = caller ∧ address' = address ∧
        ∃ link ∈ w, link.connection.appId = caller ∧ link.connection.address = address
  | .endReliableWrite clientIf address _ => fun clientIf' address' =>
      begun clientIf' address' ∧ ¬(clientIf' = clientIf ∧ address' = address)
  | .unregisterClient clientIf => fun clientIf' address' =>
      begun clientIf' address' ∧ clientIf' ≠ clientIf
  | .onConnected clientIf _ status address _ => fun clientIf' address' =>
      begun clientIf' address' ∧ ¬(status = 0 ∧ clientIf' = clientIf ∧ address' = address)
  | .onDisconnected connId => fun clientIf' address' =>
      begun clientIf' address' ∧
        ¬∃ link ∈ w, link.connection = ⟨connId, address', clientIf'⟩
  | _ => begun

/-- What is promised of a write that is sent: it is a prepared write if and only if its client
has begun a reliable write. -/
def PreparedIffBegun (begun : Begun) (event : Event C) (effect : ClientEffect C) : Prop :=
  ∀ clientIf address handle writeType authReq value,
    event = .request clientIf address (.writeCharacteristic handle writeType authReq value) →
      ∀ connId handle' sentType authReq' value',
        .writeCharacteristic connId handle' sentType authReq' value' ∈ effect.calls →
          (sentType = 3 ↔ begun clientIf address)

/-- The condition. Every other client connected to the device has begun too when a client
begins, and has not begun when it ends; a connection is new to its client, and is made while no
writes to the device are collected; a client that goes has one connection at most; and no
prepared write is asked for outside a reliable write. -/
def KeepsApart (s : ClientLib C) (w : List Link) (begun : Begun) (caller : Int) : Event C → Prop
  | .beginReliableWrite address => ∀ link ∈ w, link.connection.address = address →
      link.connection.appId ≠ caller → begun link.connection.appId address
  | .endReliableWrite clientIf address _ => ∀ link ∈ w, link.connection.address = address →
      link.connection.appId ≠ clientIf → ¬begun link.connection.appId address
  | .unregisterClient clientIf => ∀ link ∈ w, ∀ link' ∈ w,
      link.connection.appId = clientIf → link'.connection.appId = clientIf →
        link.connection = link'.connection
  | .onConnected clientIf connId status address _ => status = 0 →
      s.mClientMap.Registered clientIf →
        s.mClientMap.Fresh ⟨connId, address, clientIf⟩ ∧ address ∉ s.mReliableQueue
  | .request clientIf address (.writeCharacteristic _ writeType _ _) =>
      writeType = 3 → begun clientIf address
  | _ => True

/-- What the stack and the callers do; what a device answers to a discovery is left open. -/
def Regular (s : ClientLib C) (w : List Link) (event : Event C) : Prop :=
  (∀ connId db, event ≠ .onGetGattDb connId db) → Legal s w event

/-- The runs of a library, with the open connections and the reliable writes in each state. -/
inductive ReliableRuns : ClientLib C → List Link → Begun → Prop
  | start : ReliableRuns .empty [] fun _ _ => False
  | step {s s' : ClientLib C} {w : List Link} {begun : Begun} {effect : ClientEffect C}
      (caller : Int) (event : Event C) : ReliableRuns s w begun → Regular s w event →
      s.step event = some (s', effect) →
      ReliableRuns s' (s.linksAfter w event) (begunAfter w begun caller event)

/-- The runs whose events meet the condition. -/
inductive ReliableReaches : ClientLib C → List Link → Begun → Prop
  | start : ReliableReaches .empty [] fun _ _ => False
  | step {s s' : ClientLib C} {w : List Link} {begun : Begun} {effect : ClientEffect C}
      (caller : Int) (event : Event C) : ReliableReaches s w begun → Regular s w event →
      KeepsApart s w begun caller event → s.step event = some (s', effect) →
      ReliableReaches s' (s.linksAfter w event) (begunAfter w begun caller event)

/-! ## What is kept -/

/-- The connections of the map are the open ones, and their clients have begun a reliable write
exactly if writes to the device are collected. -/
structure Apart (s : ClientLib C) (w : List Link) (begun : Begun) : Prop where
  connections : ∀ c, c ∈ s.mClientMap.mConnections ↔ ∃ link ∈ w, link.connection = c
  registered : ∀ c ∈ s.mClientMap.mConnections, s.mClientMap.Registered c.appId
  nodup : s.mClientMap.mConnections.Nodup
  distinct : s.mClientMap.Distinct
  uuids : s.mClientMap.UuidsDistinct
  queue : s.mReliableQueue.Nodup
  collected : ∀ c ∈ s.mClientMap.mConnections,
    c.address ∈ s.mReliableQueue ↔ begun c.appId c.address

theorem apart_empty : Apart (.empty : ClientLib C) [] fun _ _ => False where
  connections c := by
    constructor
    · intro h
      cases h
    · rintro ⟨link, h, -⟩
      cases h
  registered := nofun
  nodup := nodup_nil
  distinct := nofun
  uuids := nodup_nil
  queue := nodup_nil
  collected := nofun

variable {address : String}

namespace Apart

variable {begun : Begun}

variable {clientIf caller : Int}

/-- Registrations leave the connections alone. -/
theorem onClientRegistered (h : Apart s w begun) {status : Int} {uuid : Uuid}
    (hlegal : Legal s w (.onClientRegistered status clientIf uuid)) :
    Apart (s.onClientRegistered status clientIf uuid) w begun := by
  unfold ClientLib.onClientRegistered
  split
  · exact ⟨h.connections, fun c hc => (h.registered c hc).setId h.uuids hlegal.1, h.nodup,
      h.distinct, h.uuids.setId uuid clientIf, h.queue, h.collected⟩
  · exact ⟨h.connections, fun c hc => (h.registered c hc).removeUuid h.uuids hlegal.1, h.nodup,
      h.distinct, h.uuids.removeUuid uuid, h.queue, h.collected⟩

/-- The only connection of a client that goes is taken out of the map. -/
theorem mem_remove_iff (h : Apart s w begun)
    (honly : ∀ link ∈ w, ∀ link' ∈ w, link.connection.appId = clientIf →
      link'.connection.appId = clientIf → link.connection = link'.connection) (c : AppConnection) :
    c ∈ (s.mClientMap.remove clientIf).mConnections ↔
      c ∈ s.mClientMap.mConnections ∧ c.appId ≠ clientIf := by
  constructor
  · intro hc
    have hmem := ContextMap.remove_subset hc
    refine ⟨hmem, ?_⟩
    rintro rfl
    obtain ⟨app, happ⟩ := (h.registered c hmem).getById
    unfold ContextMap.remove at hc
    rw [happ] at hc
    have hfind : s.mClientMap.mConnections.find? (fun c' => decide (c'.appId = c.appId)) =
        some c := by
      refine find?_of_unique hmem (decide_eq_true rfl) fun c' hc' hsame => ?_
      obtain ⟨link, hlink, rfl⟩ := (h.connections c).1 hmem
      obtain ⟨link', hlink', rfl⟩ := (h.connections c').1 hc'
      exact honly link' hlink' link hlink (of_decide_eq_true hsame) rfl
    exact ((mem_eraseP_of_nodup h.nodup hfind c).1 hc).2 rfl
  · rintro ⟨hmem, hne⟩
    exact ContextMap.mem_remove hmem hne

theorem unregisterClient (h : Apart s w begun)
    (honly : ∀ link ∈ w, ∀ link' ∈ w, link.connection.appId = clientIf →
      link'.connection.appId = clientIf → link.connection = link'.connection) :
    Apart (s.unregisterClient clientIf)
      (w.filter fun link => link.connection.appId != clientIf)
      fun clientIf' address => begun clientIf' address ∧ clientIf' ≠ clientIf where
  connections c := by
    refine (h.mem_remove_iff honly c).trans ?_
    rw [h.connections c]
    constructor
    · rintro ⟨⟨link, hlink, rfl⟩, hne⟩
      exact ⟨link, mem_filter.2 ⟨hlink, bne_iff_ne.2 hne⟩, rfl⟩
    · rintro ⟨link, hlink, rfl⟩
      obtain ⟨hlink, hne⟩ := mem_filter.1 hlink
      exact ⟨⟨link, hlink, rfl⟩, bne_iff_ne.1 hne⟩
  registered c hc := by
    obtain ⟨hmem, hne⟩ := (h.mem_remove_iff honly c).1 hc
    exact (h.registered c hmem).remove hne
  nodup := by
    change (s.mClientMap.remove clientIf).mConnections.Nodup
    unfold ContextMap.remove
    split
    · exact h.nodup
    · exact h.nodup.sublist eraseP_sublist
  distinct := h.distinct.subset fun _ => ContextMap.remove_subset
  uuids := h.uuids.remove clientIf
  queue := h.queue
  collected c hc := by
    obtain ⟨hmem, hne⟩ := (h.mem_remove_iff honly c).1 hc
    rw [and_iff_left hne]
    exact h.collected c hmem

/-- A connection that is closed is taken out of the map, and no other one. -/
theorem mem_removeConnection_iff (h : Apart s w begun) (connId : Int) (c : AppConnection) :
    c ∈ (s.mClientMap.removeConnection connId).mConnections ↔
      c ∈ s.mClientMap.mConnections ∧ c.connId ≠ connId := by
  constructor
  · intro hc
    have hmem := ContextMap.removeConnection_subset hc
    refine ⟨hmem, ?_⟩
    rintro rfl
    have hfind : s.mClientMap.mConnections.find? (fun c' => decide (c'.connId = c.connId)) =
        some c :=
      find?_of_unique hmem (decide_eq_true rfl) fun c' hc' hsame =>
        h.distinct c' hc' c hmem (.inl (of_decide_eq_true hsame))
    exact ((mem_eraseP_of_nodup h.nodup hfind c).1 hc).2 rfl
  · rintro ⟨hmem, hne⟩
    exact ContextMap.mem_removeConnection hmem hne

theorem onDisconnected (h : Apart s w begun) (connId : Int) :
    Apart (s.onDisconnected connId)
      (w.filter fun link => link.connection.connId != connId)
      fun clientIf address => begun clientIf address ∧
        ¬∃ link ∈ w, link.connection = ⟨connId, address, clientIf⟩ where
  connections c := by
    refine (h.mem_removeConnection_iff connId c).trans ?_
    rw [h.connections c]
    constructor
    · rintro ⟨⟨link, hlink, rfl⟩, hne⟩
      exact ⟨link, mem_filter.2 ⟨hlink, bne_iff_ne.2 hne⟩, rfl⟩
    · rintro ⟨link, hlink, rfl⟩
      obtain ⟨hlink, hne⟩ := mem_filter.1 hlink
      exact ⟨⟨link, hlink, rfl⟩, bne_iff_ne.1 hne⟩
  registered c hc := h.registered c ((h.mem_removeConnection_iff connId c).1 hc).1
  nodup := h.nodup.sublist eraseP_sublist
  distinct := h.distinct.subset fun _ => ContextMap.removeConnection_subset
  uuids := h.uuids
  queue := h.queue
  collected c hc := by
    obtain ⟨hmem, hne⟩ := (h.mem_removeConnection_iff connId c).1 hc
    have hopen : ¬∃ link ∈ w, link.connection = ⟨connId, c.address, c.appId⟩ := by
      rintro ⟨link, hlink, heq⟩
      have hother := (h.connections link.connection).2 ⟨link, hlink, rfl⟩
      have hsame := h.distinct c hmem link.connection hother
        (.inr (by rw [heq]; exact ⟨rfl, rfl⟩))
      rw [heq] at hsame
      exact hne (congrArg AppConnection.connId hsame)
    rw [and_iff_left hopen]
    exact h.collected c hmem

/-- A new connection, while no writes to the device are collected. -/
theorem addLink (h : Apart s w begun) {c : AppConnection} {order : List AppConnection}
    (hregistered : s.mClientMap.Registered c.appId) (hfresh : s.mClientMap.Fresh c)
    (hqueue : c.address ∉ s.mReliableQueue) :
    Apart { s with mClientMap := s.mClientMap.insertConnection c order } (w ++ [⟨c, none⟩])
      fun clientIf address =>
        begun clientIf address ∧ ¬(clientIf = c.appId ∧ address = c.address) where
  connections c' := by
    rw [ContextMap.mem_insertConnection, h.connections c']
    constructor
    · rintro (rfl | ⟨link, hlink, rfl⟩)
      · exact ⟨⟨c', none⟩, mem_append_right _ (mem_singleton_self _), rfl⟩
      · exact ⟨link, mem_append_left _ hlink, rfl⟩
    · rintro ⟨link, hlink, rfl⟩
      obtain hold | hnew := mem_append.1 hlink
      · exact .inr ⟨link, hold, rfl⟩
      · obtain rfl := mem_singleton.1 hnew
        exact .inl rfl
  registered c' hc' := by
    obtain rfl | hmem := ContextMap.mem_insertConnection.1 hc'
    · exact hregistered
    · exact h.registered c' hmem
  nodup := by
    have hcons : (c :: s.mClientMap.mConnections).Nodup :=
      nodup_cons.2 ⟨fun hc => (hfresh c hc).1 rfl, h.nodup⟩
    unfold ContextMap.insertConnection
    dsimp only
    split
    · next hperm => exact (isPerm_iff.1 hperm).nodup_iff.2 hcons
    · exact hcons
  distinct := h.distinct.insertConnection hfresh order
  uuids := h.uuids
  queue := h.queue
  collected c' hc' := by
    obtain rfl | hmem := ContextMap.mem_insertConnection.1 hc'
    · exact iff_of_false hqueue fun hbegun => hbegun.2 ⟨rfl, rfl⟩
    · have hother : ¬(c'.appId = c.appId ∧ c'.address = c.address) := fun hsame =>
        (hfresh c' hmem).2 hsame.symm
      rw [and_iff_left hother]
      exact h.collected c' hmem

theorem onConnected (h : Apart s w begun) {connId status : Int} {order : List AppConnection}
    (happart : KeepsApart s w begun caller (.onConnected clientIf connId status address order)) :
    Apart (s.onConnected clientIf connId status address order)
      (s.linksAfter w (.onConnected clientIf connId status address order))
      (begunAfter w begun caller
        (.onConnected clientIf connId status address order : Event C)) := by
  unfold ClientLib.onConnected
  by_cases hstatus : status = 0
  · rw [if_pos hstatus]
    cases happ : s.mClientMap.getById clientIf with
    | none =>
        have hlink : s.linksAfter w (.onConnected clientIf connId status address order) = w := by
          simp [linksAfter, happ]
        have hadd : s.mClientMap.addConnection clientIf connId address order = s.mClientMap := by
          simp [ContextMap.addConnection, happ]
        rw [hlink, hadd]
        refine ⟨h.connections, h.registered, h.nodup, h.distinct, h.uuids, h.queue, ?_⟩
        intro c hc
        have hother : ¬(status = 0 ∧ c.appId = clientIf ∧ c.address = address) := by
          rintro ⟨-, rfl, -⟩
          have hfound := ContextMap.registered_iff.1 (h.registered c hc)
          rw [happ] at hfound
          cases hfound
        refine (h.collected c hc).trans ?_
        exact (and_iff_left hother).symm
    | some app =>
        have hregistered : s.mClientMap.Registered clientIf :=
          ContextMap.registered_iff.2 (by rw [happ]; rfl)
        have hlink : s.linksAfter w (.onConnected clientIf connId status address order) =
            w ++ [⟨⟨connId, address, clientIf⟩, none⟩] := by
          simp [linksAfter, happ, hstatus]
        have hadd : s.mClientMap.addConnection clientIf connId address order =
            s.mClientMap.insertConnection ⟨connId, address, clientIf⟩ order := by
          simp [ContextMap.addConnection, happ]
        have hbegun : begunAfter w begun caller
            (.onConnected clientIf connId status address order : Event C) =
            fun clientIf' address' =>
              begun clientIf' address' ∧ ¬(clientIf' = clientIf ∧ address' = address) := by
          simp [begunAfter, hstatus]
        obtain ⟨hfresh, hqueue⟩ := happart hstatus hregistered
        rw [hlink, hadd, hbegun]
        exact h.addLink hregistered hfresh hqueue
  · have hlink : s.linksAfter w (.onConnected clientIf connId status address order) = w := by
      simp [linksAfter, hstatus]
    have hbegun : begunAfter w begun caller
        (.onConnected clientIf connId status address order : Event C) = begun := by
      simp [begunAfter, hstatus]
    rw [if_neg hstatus, hlink, hbegun]
    exact h

/-- A client begins when every other one that is connected to the device has begun. -/
theorem beginReliableWrite (h : Apart s w begun)
    (happart : KeepsApart s w begun caller (.beginReliableWrite address : Event C)) :
    Apart (s.beginReliableWrite address) w
      (begunAfter w begun caller (.beginReliableWrite address : Event C)) := { h with
  queue := h.queue.insert
  collected c hc := by
    obtain ⟨link, hlink, rfl⟩ := (h.connections c).1 hc
    change link.connection.address ∈ s.mReliableQueue.insert address ↔ _ ∨ _
    rw [mem_insert_iff]
    constructor
    · rintro (haddress | hmem)
      · by_cases hcaller : link.connection.appId = caller
        · exact .inr ⟨hcaller, haddress, link, hlink, hcaller, haddress⟩
        · rw [haddress]
          exact .inl (happart link hlink haddress hcaller)
      · exact .inl ((h.collected _ hc).1 hmem)
    · rintro (hbegun | ⟨-, haddress, -⟩)
      · exact .inr ((h.collected _ hc).2 hbegun)
      · exact .inl haddress }

/-- A client ends when no other one that is connected to the device has begun. -/
theorem endReliableWrite (h : Apart s w begun) {execute : Bool}
    (happart : KeepsApart s w begun caller
      (.endReliableWrite clientIf address execute : Event C)) :
    Apart (s.endReliableWrite clientIf address execute).1 w
      (begunAfter w begun caller (.endReliableWrite clientIf address execute : Event C)) := { h with
  queue := h.queue.erase address
  collected c hc := by
    obtain ⟨link, hlink, rfl⟩ := (h.connections c).1 hc
    change link.connection.address ∈ s.mReliableQueue.erase address ↔ _ ∧ _
    rw [h.queue.mem_erase_iff, h.collected _ hc]
    constructor
    · rintro ⟨hne, hbegun⟩
      exact ⟨hbegun, fun hsame => hne hsame.2⟩
    · rintro ⟨hbegun, hother⟩
      refine ⟨fun haddress => ?_, hbegun⟩
      by_cases hclient : link.connection.appId = clientIf
      · exact hother ⟨hclient, haddress⟩
      · rw [haddress] at hbegun
        exact happart link hlink haddress hclient hbegun }

/-- A discovery changes the databases only. -/
theorem onGetGattDb (h : Apart s w begun) {connId : Int} {db : List GattDbElement}
    {effect : ClientEffect C} (hstep : s.onGetGattDb connId db = some (s', effect)) :
    Apart s' (w.map (·.discover connId (Gatt.onGetGattDb db))) begun := by
  have hsame : s'.mClientMap = s.mClientMap ∧ s'.mReliableQueue = s.mReliableQueue := by
    unfold ClientLib.onGetGattDb at hstep
    split at hstep
    · cases hstep
      exact ⟨rfl, rfl⟩
    · obtain ⟨dbOut, -, heq⟩ := Option.map_eq_some_iff.1 hstep
      cases heq
      exact ⟨rfl, rfl⟩
  obtain ⟨hmap, hqueue⟩ := hsame
  have hdiscover : ∀ link : Link,
      (link.discover connId (Gatt.onGetGattDb db)).connection = link.connection := by
    intro link
    unfold Link.discover
    split
    · rfl
    · rfl
  refine ⟨?_, ?_, ?_, ?_, ?_, ?_, ?_⟩
  · intro c
    rw [hmap, h.connections c]
    constructor
    · rintro ⟨link, hlink, rfl⟩
      exact ⟨_, mem_map_of_mem hlink, hdiscover link⟩
    · rintro ⟨link, hlink, rfl⟩
      obtain ⟨link', hlink', rfl⟩ := mem_map.1 hlink
      exact ⟨link', hlink', (hdiscover link').symm⟩
  · rw [hmap]
    exact h.registered
  · rw [hmap]
    exact h.nodup
  · rw [hmap]
    exact h.distinct
  · rw [hmap]
    exact h.uuids
  · rw [hqueue]
    exact h.queue
  · rw [hmap, hqueue]
    exact h.collected

theorem step (h : Apart s w begun) {event : Event C} {effect : ClientEffect C}
    (hregular : Regular s w event) (happart : KeepsApart s w begun caller event)
    (hstep : s.step event = some (s', effect)) :
    Apart s' (s.linksAfter w event) (begunAfter w begun caller event) := by
  cases event with
  | registerClient uuid callback =>
      cases hstep
      exact ⟨h.connections, fun c hc => (h.registered c hc).add uuid callback, h.nodup,
        h.distinct, h.uuids.add (hregular nofun) callback, h.queue, h.collected⟩
  | onClientRegistered status clientIf uuid =>
      cases hstep
      exact h.onClientRegistered (hregular nofun)
  | unregisterClient clientIf =>
      cases hstep
      exact h.unregisterClient happart
  | onConnected clientIf connId status address order =>
      cases hstep
      exact h.onConnected happart
  | onDisconnected connId =>
      cases hstep
      exact h.onDisconnected connId
  | onGetGattDb connId db => exact h.onGetGattDb hstep
  | request clientIf address request =>
      cases hstep
      exact h
  | beginReliableWrite address =>
      cases hstep
      exact h.beginReliableWrite happart
  | endReliableWrite clientIf address execute =>
      cases hstep
      exact h.endReliableWrite happart
  | onNotify connId address handle data =>
      cases hstep
      exact h

end Apart

theorem ReliableReaches.apart {begun : Begun} (h : ReliableReaches s w begun) :
    Apart s w begun := by
  induction h with
  | start => exact apart_empty
  | step caller event _ hregular happart hstep ih => exact ih.step hregular happart hstep

/-! ## Writes -/

/-- What is sent for a write, which is over a connection of the client to the address. -/
theorem mem_writeCharacteristic {clientIf : Int} {handle writeType authReq : Int}
    {value : List UInt8} {call : ClientCall}
    (h : call ∈ s.writeCharacteristic clientIf address handle writeType authReq value) :
    ∃ c ∈ s.mClientMap.mConnections, c.address = address ∧ c.appId = clientIf ∧
      call = .writeCharacteristic c.connId handle
        (if address ∈ s.mReliableQueue then 3 else writeType) authReq (cValue value) := by
  unfold writeCharacteristic at h
  split at h
  · cases h
  · obtain ⟨c, hc, haddress, happ, -, hcall⟩ := mem_access h
    exact ⟨c, hc, haddress, happ, hcall⟩

/-- In a run whose events meet the condition a write is sent as a prepared write if and only if
its client has begun a reliable write on its connection and has not ended it. -/
theorem reliable_writes_apart {begun : Begun} (h : ReliableReaches s w begun) (caller : Int)
    {event : Event C} {effect : ClientEffect C} (happart : KeepsApart s w begun caller event)
    (hstep : s.step event = some (s', effect)) : PreparedIffBegun begun event effect := by
  rintro clientIf address handle writeType authReq value rfl connId handle' sentType authReq' value'
    hcall
  cases hstep
  obtain ⟨c, hc, rfl, rfl, heq⟩ := mem_writeCharacteristic hcall
  obtain ⟨-, -, rfl, -, -⟩ := ClientCall.writeCharacteristic.inj heq
  have hcollected := h.apart.collected c hc
  split
  · next hmem => exact iff_of_true rfl (hcollected.1 hmem)
  · next hmem =>
      exact ⟨happart, fun hbegun => absurd (hcollected.2 hbegun) hmem⟩

/-- A client that begins a reliable write on its connection, and writes. -/
theorem reliable_writes_apart_one :
    ∃ (begun : Begun) (effect : ClientEffect Nat),
      effect.calls = [.writeCharacteristic 1 12 3 0 [7]] ∧ PreparedIffBegun begun
        (.request 4 "A" (.writeCharacteristic 12 2 0 [7]) : Event Nat) effect := by
  have h1 := (ReliableReaches.start : ReliableReaches (.empty : ClientLib Nat) _ _).step 0
    (.registerClient Uuid.empty 0) (fun _ => nofun) trivial rfl
  have h2 := h1.step 0 (.onClientRegistered 0 4 Uuid.empty)
    (fun _ => ⟨⟨_, mem_singleton.2 rfl, rfl, rfl⟩, by
      rintro - ⟨app, hmem, hid⟩
      obtain rfl := mem_singleton.1 hmem
      cases hid⟩) trivial rfl
  have h3 := h2.step 0 (.onConnected 4 1 0 "A" []) (fun _ _ => ⟨by decide, nofun⟩)
    (fun _ _ => ⟨nofun, not_mem_nil⟩) rfl
  have h4 := h3.step 0 (.onGetGattDb 1 (oneCharacteristic levelUuid))
    (fun hother => absurd rfl (hother 1 _)) trivial rfl
  have h5 := h4.step 4 (.beginReliableWrite "A") (fun _ => trivial)
    (by
      intro link hlink _ hother
      obtain rfl := mem_singleton.1 hlink
      exact absurd rfl hother) rfl
  exact ⟨_, _, rfl, reliable_writes_apart h5 4 (fun htype => by cases htype) rfl⟩

/-- Two clients are connected to a device, and only the second one has begun a reliable write:
the write of the first one is prepared as well. -/
theorem other_client_prepares : ¬∀ (s s' : ClientLib Nat) (w : List Link) (begun : Begun),
    ReliableRuns s w begun → ∀ (event : Event Nat) (effect : ClientEffect Nat),
      s.step event = some (s', effect) → PreparedIffBegun begun event effect := by
  intro hall
  have h1 := (ReliableRuns.start : ReliableRuns (.empty : ClientLib Nat) _ _).step 0
    (.registerClient Uuid.empty 0) (fun _ => nofun) rfl
  have h2 := h1.step 0 (.onClientRegistered 0 4 Uuid.empty)
    (fun _ => ⟨⟨_, mem_singleton.2 rfl, rfl, rfl⟩, by
      rintro - ⟨app, hmem, hid⟩
      obtain rfl := mem_singleton.1 hmem
      cases hid⟩) rfl
  have h3 := h2.step 0 (.registerClient levelUuid 1) (fun _ => by
    intro app hmem
    obtain rfl := mem_singleton.1 hmem
    decide) rfl
  have h4 := h3.step 0 (.onClientRegistered 0 5 levelUuid)
    (fun _ => ⟨⟨_, mem_cons_of_mem _ (mem_singleton.2 rfl), rfl, rfl⟩, by
      rintro - ⟨app, hmem, hid⟩
      obtain rfl | hmem := mem_cons.1 hmem
      · cases hid
      · obtain rfl := mem_singleton.1 hmem
        cases hid⟩) rfl
  have h5 := h4.step 0 (.onConnected 4 1 0 "A" []) (fun _ _ => ⟨by decide, nofun⟩) rfl
  have h6 := h5.step 0 (.onConnected 5 2 0 "A" []) (fun _ _ => ⟨by decide, by decide⟩) rfl
  have h7 := h6.step 0 (.onGetGattDb 1 (oneCharacteristic levelUuid))
    (fun hother => absurd rfl (hother 1 _)) rfl
  have h8 := h7.step 5 (.beginReliableWrite "A") (fun _ => trivial) rfl
  have hprepared := hall _ _ _ _ h8 (.request 4 "A" (.writeCharacteristic 12 2 0 [7])) _ rfl
    4 "A" 12 2 0 [7] rfl 1 12 3 0 [7] (mem_singleton.2 rfl)
  obtain hbegun | ⟨hcaller, -⟩ := hprepared.1 rfl
  · exact hbegun.1.1
  · exact absurd hcaller (by decide)

end Gatt.ClientLib
