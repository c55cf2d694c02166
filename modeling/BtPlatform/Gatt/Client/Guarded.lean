import BtPlatform.Gatt.Client.Restricted

/-!
# Restricted attributes stay out of reach

As long as every discovery finds no older database, the database that is kept under a
connection id is the one last discovered on the connection, and the check answers for it.
-/

namespace Gatt.ClientLib

open Support List

variable {C : Type} {s s' : ClientLib C} {w : List Link}

/-! ## Accesses -/

/-- The check that is made before a call. -/
def permitted (s : ClientLib C) (connId : Int) : ClientRequest → Bool
  | .readCharacteristic handle _ => s.permissionCheck connId handle
  | .readUsingCharacteristicUuid uuid _ _ _ => permissionCheckUuid uuid
  | .writeCharacteristic handle _ _ _ => s.permissionCheck connId handle
  | .readDescriptor handle _ => s.permissionCheck connId handle
  | .writeDescriptor handle _ _ => s.permissionCheck connId handle
  | .registerForNotification handle _ => s.permissionCheck connId handle

theorem request_eq (s : ClientLib C) (clientIf : Int) (address : String)
    {request : ClientRequest} (hvalue : request.isEmpty = false) :
    s.request clientIf address request =
      s.access clientIf address (s.permitted · request) fun connId =>
        request.call ⟨connId, address, clientIf⟩ (decide (address ∈ s.mReliableQueue)) := by
  cases request with
  | readCharacteristic handle authReq => rfl
  | readUsingCharacteristicUuid uuid startHandle endHandle authReq => rfl
  | writeCharacteristic handle writeType authReq value =>
      have htype : (if decide (address ∈ s.mReliableQueue) = true then 3 else writeType) =
          if address ∈ s.mReliableQueue then 3 else writeType := by
        simp only [decide_eq_true_eq]
      change s.writeCharacteristic clientIf address handle writeType authReq value = _
      unfold writeCharacteristic ClientRequest.call
      dsimp only
      rw [htype, if_neg (of_decide_eq_false hvalue)]
      rfl
  | readDescriptor handle authReq => rfl
  | writeDescriptor handle authReq value => exact if_neg (of_decide_eq_false hvalue)
  | registerForNotification handle enable => rfl

variable {clientIf : Int} {a : DbAttribute}

variable {address : String}

/-- What is called is for a connection of the client to the address, and was permitted. -/
theorem mem_access {permitted : Int → Bool} {mk : Int → ClientCall} {call : ClientCall}
    (h : call ∈ s.access clientIf address permitted mk) :
    ∃ c ∈ s.mClientMap.mConnections, c.address = address ∧ c.appId = clientIf ∧
      permitted c.connId = true ∧ call = mk c.connId := by
  unfold access at h
  split at h
  · cases h
  · next hpos =>
      split at h
      · next hpermitted =>
          obtain ⟨c, hc, hid, haddress, happ⟩ := ContextMap.connIdByAddress_mem (Int.not_lt.1 hpos)
          rw [← hid] at h hpermitted
          exact ⟨c, hc, haddress, happ, hpermitted, mem_singleton.1 h⟩
      · cases h

/-- A call for an attribute was made for its connection, by an access to it. -/
theorem touches_call {request : ClientRequest} {c c' : AppConnection} {prepared : Bool}
    (h : (request.call c prepared).Touches c' a) :
    (c.connId = c'.connId ∨ (c.address = c'.address ∧ c.appId = c'.appId)) ∧
      request.Targets a := by
  cases request with
  | readCharacteristic handle authReq => exact ⟨.inl h.1, h.2⟩
  | readUsingCharacteristicUuid uuid startHandle endHandle authReq => exact ⟨.inl h.1, h.2⟩
  | writeCharacteristic handle writeType authReq value => exact ⟨.inl h.1, h.2⟩
  | readDescriptor handle authReq => exact ⟨.inl h.1, h.2⟩
  | writeDescriptor handle authReq value => exact ⟨.inl h.1, h.2⟩
  | registerForNotification handle enable => exact ⟨.inr ⟨h.1.2, h.1.1⟩, h.2⟩

/-! ## What is kept -/

/-- What holds in every state that is reached. -/
structure Safe (s : ClientLib C) (w : List Link) : Prop where
  recorded : ∀ link ∈ w, link.connection ∈ s.mClientMap.mConnections ∧
    s.mClientMap.Registered link.connection.appId ∧ 0 ≤ link.connection.connId
  cached : ∀ link ∈ w, ∀ db ∈ link.db, HandlesDistinct db ∧
    s.mGattClientDatabases.lookup link.connection.connId = some db
  distinct : s.mClientMap.Distinct
  uuids : s.mClientMap.UuidsDistinct

theorem safe_empty : Safe (.empty : ClientLib C) [] where
  recorded := nofun
  cached := nofun
  distinct := nofun
  uuids := nodup_nil

namespace Safe

theorem registerClient (h : Safe s w) {uuid : Uuid} {callback : C}
    (hlegal : Legal s w (.registerClient uuid callback)) :
    Safe (s.registerClient uuid callback) w where
  recorded link hlink :=
    have ⟨hmem, hregistered, hpos⟩ := h.recorded link hlink
    ⟨hmem, hregistered.add uuid callback, hpos⟩
  cached := h.cached
  distinct := h.distinct
  uuids := h.uuids.add hlegal callback

theorem onClientRegistered (h : Safe s w) {status : Int} {uuid : Uuid}
    (hlegal : Legal s w (.onClientRegistered status clientIf uuid)) :
    Safe (s.onClientRegistered status clientIf uuid) w := by
  unfold ClientLib.onClientRegistered
  split
  · refine ⟨?_, h.cached, h.distinct, h.uuids.setId uuid clientIf⟩
    intro link hlink
    obtain ⟨hmem, hregistered, hpos⟩ := h.recorded link hlink
    exact ⟨hmem, hregistered.setId h.uuids hlegal.1, hpos⟩
  · refine ⟨?_, h.cached, h.distinct, h.uuids.removeUuid uuid⟩
    intro link hlink
    obtain ⟨hmem, hregistered, hpos⟩ := h.recorded link hlink
    exact ⟨hmem, hregistered.removeUuid h.uuids hlegal.1, hpos⟩

theorem unregisterClient (h : Safe s w) (clientIf : Int) :
    Safe (s.unregisterClient clientIf)
      (w.filter fun link => link.connection.appId != clientIf) where
  recorded link hlink := by
    obtain ⟨hmem, hne⟩ := mem_filter.1 hlink
    obtain ⟨hconnection, hregistered, hpos⟩ := h.recorded link hmem
    have hother : link.connection.appId ≠ clientIf := bne_iff_ne.1 hne
    exact ⟨ContextMap.mem_remove hconnection hother, hregistered.remove hother, hpos⟩
  cached link hlink := h.cached link (mem_of_mem_filter hlink)
  distinct := h.distinct.subset fun _ => ContextMap.remove_subset
  uuids := h.uuids.remove clientIf

theorem onDisconnected (h : Safe s w) (connId : Int) :
    Safe (s.onDisconnected connId)
      (w.filter fun link => link.connection.connId != connId) where
  recorded link hlink := by
    obtain ⟨hmem, hne⟩ := mem_filter.1 hlink
    obtain ⟨hconnection, hregistered, hpos⟩ := h.recorded link hmem
    exact ⟨ContextMap.mem_removeConnection hconnection (bne_iff_ne.1 hne), hregistered, hpos⟩
  cached link hlink := h.cached link (mem_of_mem_filter hlink)
  distinct := h.distinct.subset fun _ => ContextMap.removeConnection_subset
  uuids := h.uuids

/-- A new connection that clashes with none; nothing is discovered on it yet. -/
theorem addLink (h : Safe s w) {c : AppConnection} {order : List AppConnection}
    (hregistered : s.mClientMap.Registered c.appId) (hfresh : s.mClientMap.Fresh c)
    (hpos : 0 ≤ c.connId) :
    Safe { s with mClientMap := s.mClientMap.insertConnection c order } (w ++ [⟨c, none⟩]) where
  recorded link hlink := by
    obtain hold | hnew := mem_append.1 hlink
    · obtain ⟨hconnection, hregistered', hpos'⟩ := h.recorded link hold
      exact ⟨ContextMap.mem_insertConnection.2 (.inr hconnection), hregistered', hpos'⟩
    · obtain rfl := mem_singleton.1 hnew
      exact ⟨ContextMap.mem_insertConnection.2 (.inl rfl), hregistered, hpos⟩
  cached link hlink := by
    obtain hold | hnew := mem_append.1 hlink
    · exact h.cached link hold
    · obtain rfl := mem_singleton.1 hnew
      intro db hdb
      cases hdb
  distinct := h.distinct.insertConnection hfresh order
  uuids := h.uuids

theorem onConnected (h : Safe s w) {connId status : Int} {order : List AppConnection}
    (hlegal : Legal s w (.onConnected clientIf connId status address order))
    (hcareful : Careful s w (.onConnected clientIf connId status address order)) :
    Safe (s.onConnected clientIf connId status address order)
      (s.linksAfter w (.onConnected clientIf connId status address order)) := by
  unfold ClientLib.onConnected
  split
  · next hstatus =>
      cases happ : s.mClientMap.getById clientIf with
      | none =>
          have hsame : s.linksAfter w (.onConnected clientIf connId status address order) = w := by
            simp [linksAfter, happ]
          have hadd : s.mClientMap.addConnection clientIf connId address order = s.mClientMap := by
            simp [ContextMap.addConnection, happ]
          rw [hsame, hadd]
          exact h
      | some app =>
          have hregistered : s.mClientMap.Registered clientIf :=
            ContextMap.registered_iff.2 (by rw [happ]; rfl)
          have hlink : s.linksAfter w (.onConnected clientIf connId status address order) =
              w ++ [⟨⟨connId, address, clientIf⟩, none⟩] := by
            simp [linksAfter, happ, hstatus]
          have hadd : s.mClientMap.addConnection clientIf connId address order =
              s.mClientMap.insertConnection ⟨connId, address, clientIf⟩ order := by
            simp [ContextMap.addConnection, happ]
          rw [hlink, hadd]
          exact h.addLink hregistered (hcareful hstatus hregistered) (hlegal hstatus).1
  · next hstatus =>
      have hsame : s.linksAfter w (.onConnected clientIf connId status address order) = w := by
        simp [linksAfter, hstatus]
      rw [hsame]
      exact h

/-- A discovery for a connection id. Other ids keep their database, and this one gets the new
one, or has it already. -/
theorem discover (h : Safe s w) {connId : Int} {dbOut : List GattService}
    (hdistinct : HandlesDistinct dbOut)
    (hold : ∀ old, s.mGattClientDatabases.lookup connId = some old → dbOut = old) :
    Safe { s with mGattClientDatabases := s.mGattClientDatabases.emplace connId dbOut }
      (w.map (·.discover connId (some dbOut))) where
  recorded link hlink := by
    obtain ⟨link', hmem, rfl⟩ := mem_map.1 hlink
    unfold Link.discover
    split
    · exact h.recorded link' hmem
    · exact h.recorded link' hmem
  cached link hlink := by
    obtain ⟨link', hmem, rfl⟩ := mem_map.1 hlink
    intro db hdb
    unfold Link.discover at hdb ⊢
    split at hdb
    · next hconn =>
        obtain rfl := Option.mem_some.1 hdb
        refine ⟨hdistinct, ?_⟩
        rw [if_pos hconn, Table.lookup_emplace, if_pos hconn]
        dsimp only
        rw [hconn]
        cases hlookup : s.mGattClientDatabases.lookup connId with
        | none => rfl
        | some old =>
            rw [hold old hlookup]
            rfl
    · next hconn =>
        obtain ⟨hdistinct', hlookup⟩ := h.cached link' hmem db hdb
        refine ⟨hdistinct', ?_⟩
        rw [if_neg hconn, Table.lookup_emplace, if_neg hconn, Option.or_none]
        exact hlookup
  distinct := h.distinct
  uuids := h.uuids

/-- An open connection finds its client. -/
theorem getByConnId (h : Safe s w) {link : Link} (hlink : link ∈ w) :
    ∃ app ∈ s.mClientMap.mApps, app.id = some link.connection.appId ∧
      s.mClientMap.getByConnId link.connection.connId = some app := by
  obtain ⟨hconnection, hregistered, -⟩ := h.recorded link hlink
  obtain ⟨app, happ⟩ := hregistered.getById
  obtain ⟨hmem, hid⟩ := ContextMap.getById_mem happ
  exact ⟨app, hmem, hid, (h.distinct.getByConnId hconnection).trans happ⟩

theorem onGetGattDb (h : Safe s w) {connId : Int} {db : List GattDbElement}
    {effect : ClientEffect C} (hlegal : Legal s w (.onGetGattDb connId db))
    (hcareful : Careful s w (.onGetGattDb connId db))
    (hstep : s.onGetGattDb connId db = some (s', effect)) :
    Safe s' (s.linksAfter w (.onGetGattDb connId db)) := by
  change Safe s' (w.map (·.discover connId (Gatt.onGetGattDb db)))
  unfold ClientLib.onGetGattDb at hstep
  cases happ : s.mClientMap.getByConnId connId with
  | none =>
      rw [happ] at hstep
      cases hstep
      -- no open connection has this id
      have hsame : w.map (·.discover connId (Gatt.onGetGattDb db)) = w.map id := by
        apply map_congr_left
        intro link hlink
        apply if_neg
        rintro rfl
        obtain ⟨app, -, -, hfound⟩ := h.getByConnId hlink
        rw [happ] at hfound
        cases hfound
      rw [hsame, map_id]
      exact h
  | some app =>
      rw [happ] at hstep
      obtain ⟨dbOut, hdb, heq⟩ := Option.map_eq_some_iff.1 hstep
      cases heq
      rw [hdb]
      refine h.discover (hlegal dbOut hdb) ?_
      intro old hold
      exact Option.some.inj (hdb.symm.trans (hcareful app happ old hold))

theorem step (h : Safe s w) {event : Event C} {effect : ClientEffect C}
    (hlegal : Legal s w event) (hcareful : Careful s w event)
    (hstep : s.step event = some (s', effect)) : Safe s' (s.linksAfter w event) := by
  cases event with
  | registerClient uuid callback =>
      cases hstep
      exact h.registerClient hlegal
  | onClientRegistered status clientIf uuid =>
      cases hstep
      exact h.onClientRegistered hlegal
  | unregisterClient clientIf =>
      cases hstep
      exact h.unregisterClient clientIf
  | onConnected clientIf connId status address order =>
      cases hstep
      exact h.onConnected hlegal hcareful
  | onDisconnected connId =>
      cases hstep
      exact h.onDisconnected connId
  | onGetGattDb connId db => exact h.onGetGattDb hlegal hcareful hstep
  | request clientIf address request =>
      cases hstep
      exact h
  | beginReliableWrite address =>
      cases hstep
      exact ⟨h.recorded, h.cached, h.distinct, h.uuids⟩
  | endReliableWrite clientIf address execute =>
      cases hstep
      exact ⟨h.recorded, h.cached, h.distinct, h.uuids⟩
  | onNotify connId address handle data =>
      cases hstep
      exact h

end Safe

theorem Reaches.safe (h : Reaches s w) : Safe s w := by
  induction h with
  | start => exact safe_empty
  | step event _ hlegal hcareful hstep ih => exact ih.step hlegal hcareful hstep

/-! ## Accesses and notifications -/

theorem guarded_nil (w : List Link) : Guarded w [] := fun _ _ _ _ _ _ _ _ hcall => nomatch hcall

namespace Safe

variable {request : ClientRequest} {link : Link} {db : List GattService}

/-- For an attribute that an access is for, the check finds out whether it is restricted. -/
theorem permitted_eq (h : Safe s w) (hlink : link ∈ w) (hdb : db ∈ link.db)
    (ha : a ∈ dbAttributes db) (hcareful :
      Careful s w (.request link.connection.appId link.connection.address request))
    (htargets : request.Targets a) :
    s.permitted link.connection.connId request = !a.restricted := by
  obtain ⟨hdistinct, hlookup⟩ := h.cached link hlink db hdb
  have hcheck := permissionCheck_of_mem hlookup hdistinct ha
  cases request with
  | readCharacteristic handle authReq =>
      obtain rfl := htargets
      exact hcheck
  | readUsingCharacteristicUuid uuid startHandle endHandle authReq =>
      have hrestricted := hcareful.2 uuid rfl link hlink rfl rfl db hdb a ha htargets
      change (!isRestrictedCharUuid uuid) = _
      rw [hrestricted]
  | writeCharacteristic handle writeType authReq value =>
      obtain rfl := htargets
      exact hcheck
  | readDescriptor handle authReq =>
      obtain rfl := htargets
      exact hcheck
  | writeDescriptor handle authReq value =>
      obtain rfl := htargets
      exact hcheck
  | registerForNotification handle enable =>
      obtain rfl := htargets
      exact hcheck

theorem request_guarded (h : Safe s w)
    (hcareful : Careful s w (.request clientIf address request)) :
    Guarded w (s.request clientIf address request) := by
  intro link hlink db hdb a ha hrestricted call hcall htouches
  rw [request_eq s clientIf address hcareful.1] at hcall
  obtain ⟨c, hc, rfl, rfl, hpermitted, rfl⟩ := mem_access hcall
  obtain ⟨hsame, htargets⟩ := touches_call htouches
  obtain rfl : c = link.connection := h.distinct c hc _ (h.recorded link hlink).1 hsame
  rw [h.permitted_eq hlink hdb ha hcareful htargets, hrestricted] at hpermitted
  cases hpermitted

/-- An access over an open connection is checked for this connection. -/
theorem access_eq (h : Safe s w) (hlink : link ∈ w) (permitted : Int → Bool)
    (mk : Int → ClientCall) :
    s.access link.connection.appId link.connection.address permitted mk =
      if permitted link.connection.connId then [mk link.connection.connId] else [] := by
  obtain ⟨hconnection, hregistered, hpos⟩ := h.recorded link hlink
  unfold access
  rw [h.distinct.connIdByAddress hconnection hregistered, if_neg (Int.not_lt.2 hpos)]

theorem request_passed (h : Safe s w) (hlink : link ∈ w)
    (hcareful : Careful s w (.request link.connection.appId link.connection.address request))
    (hdb : db ∈ link.db) (hallowed : request.Allowed db) :
    s.request link.connection.appId link.connection.address request =
      [request.call link.connection
        (decide (link.connection.address ∈ s.mReliableQueue))] := by
  obtain ⟨⟨a, ha, htargets⟩, hfree⟩ := hallowed
  have hpermitted := h.permitted_eq hlink hdb ha hcareful htargets
  rw [hfree a ha htargets] at hpermitted
  rw [request_eq s _ _ hcareful.1, h.access_eq hlink, hpermitted]
  rfl

theorem onNotify_correct (h : Safe s w) (address : String) (data : List UInt8) (hlink : link ∈ w)
    (hdb : db ∈ link.db) (ha : a ∈ dbAttributes db) :
    (a.restricted = true → s.onNotify link.connection.connId address a.handle data = []) ∧
    (a.restricted = false → ∃ app ∈ s.mClientMap.mApps, app.id = some link.connection.appId ∧
      s.onNotify link.connection.connId address a.handle data =
        [.onNotify app.callback address a.handle data]) := by
  obtain ⟨hdistinct, hlookup⟩ := h.cached link hlink db hdb
  obtain ⟨app, hmem, hid, hfound⟩ := h.getByConnId hlink
  unfold onNotify
  rw [permissionCheck_of_mem hlookup hdistinct ha, hfound]
  constructor
  · intro hrestricted
    rw [hrestricted]
    rfl
  · intro hfree
    rw [hfree]
    exact ⟨app, hmem, hid, rfl⟩

end Safe

/-- As long as every event meets its condition, no restricted attribute is accessed or
notified, and accesses to other attributes are passed on. -/
theorem restricted_out_of_reach (h : Reaches s w) {event : Event C} {effect : ClientEffect C}
    (hlegal : Legal s w event) (hcareful : Careful s w event)
    (hstep : s.step event = some (s', effect)) : Correct s w event effect := by
  cases event with
  | registerClient uuid callback =>
      cases hstep
      exact ⟨guarded_nil w, trivial⟩
  | onClientRegistered status clientIf uuid =>
      cases hstep
      exact ⟨guarded_nil w, trivial⟩
  | unregisterClient clientIf =>
      cases hstep
      exact ⟨guarded_nil w, trivial⟩
  | onConnected clientIf connId status address order =>
      cases hstep
      exact ⟨guarded_nil w, trivial⟩
  | onDisconnected connId =>
      cases hstep
      exact ⟨guarded_nil w, trivial⟩
  | onGetGattDb connId db =>
      refine ⟨?_, trivial⟩
      change s.onGetGattDb connId db = some (s', effect) at hstep
      unfold onGetGattDb at hstep
      cases happ : s.mClientMap.getByConnId connId with
      | none =>
          rw [happ] at hstep
          cases hstep
          exact guarded_nil w
      | some app =>
          rw [happ] at hstep
          obtain ⟨dbOut, -, heq⟩ := Option.map_eq_some_iff.1 hstep
          cases heq
          exact guarded_nil w
  | request clientIf address request =>
      cases hstep
      refine ⟨h.safe.request_guarded hcareful, ?_⟩
      rintro link hlink rfl rfl db hdb hallowed
      exact h.safe.request_passed hlink hcareful hdb hallowed
  | beginReliableWrite address =>
      cases hstep
      exact ⟨guarded_nil w, trivial⟩
  | endReliableWrite clientIf address execute =>
      cases hstep
      refine ⟨?_, trivial⟩
      intro link hlink db hdb a ha hrestricted call hcall
      have haccess : call ∈ s.access clientIf address (fun _ => true) (.executeWrite · execute) :=
        hcall
      obtain ⟨c, -, -, -, -, rfl⟩ := mem_access haccess
      exact id
  | onNotify connId address handle data =>
      cases hstep
      refine ⟨guarded_nil w, ?_⟩
      rintro link hlink rfl db hdb a ha rfl
      exact h.safe.onNotify_correct address data hlink hdb ha

/-- A service with a characteristic at handle 12 that has one descriptor. -/
def oneCharacteristic (uuid : Uuid) : List GattDbElement :=
  [{ type := .primaryService, id := 10 }, { type := .characteristic, id := 12, uuid := uuid },
    { type := .descriptor, id := 13 }]

/-- `UUID_HID_REPORT_CHAR` and the UUID of a battery level. -/
def reportUuid : Uuid := Uuid.from16Bit 0x2A4D
def levelUuid : Uuid := Uuid.from16Bit 0x2A19

theorem restricted_out_of_reach_report : ∃ (s : ClientLib Nat) (w : List Link)
    (effect : ClientEffect Nat), w.map Link.connection = [⟨1, "A", 4⟩] ∧
      s.step (.request 4 "A" (.writeDescriptor 13 0 [1])) = some (s, effect) ∧
      Correct s w (.request 4 "A" (.writeDescriptor 13 0 [1])) effect := by
  have h1 := (Reaches.start : Reaches (.empty : ClientLib Nat) _).step
    (.registerClient Uuid.empty 0) nofun trivial rfl
  have h2 := h1.step (.onClientRegistered 0 4 Uuid.empty)
    ⟨⟨_, mem_singleton.2 rfl, rfl, rfl⟩, by
      rintro - ⟨app, hmem, hid⟩
      obtain rfl := mem_singleton.1 hmem
      cases hid⟩ trivial rfl
  have h3 := h2.step (.onConnected 4 1 0 "A" []) (fun _ => ⟨by decide, nofun⟩)
    (fun _ _ => nofun) rfl
  have h4 := h3.step (.onGetGattDb 1 (oneCharacteristic reportUuid))
    (by rintro _ ⟨⟩; decide) (fun _ _ => nofun) rfl
  exact ⟨_, _, _, rfl, rfl, restricted_out_of_reach h4 trivial ⟨rfl, nofun⟩ rfl⟩

/-- A connection id is used again for a device that has an HID report where the first one has
none: the report is read. -/
theorem not_restricted_out_of_reach : ¬ ∀ (s s' : ClientLib Nat) (w : List Link), Runs s w →
    ∀ (event : Event Nat) (effect : ClientEffect Nat), Legal s w event →
      s.step event = some (s', effect) → Correct s w event effect := by
  intro hall
  have h1 := (Runs.start : Runs (.empty : ClientLib Nat) _).step
    (.registerClient Uuid.empty 0) nofun rfl
  have h2 := h1.step (.onClientRegistered 0 4 Uuid.empty)
    ⟨⟨_, mem_singleton.2 rfl, rfl, rfl⟩, by
      rintro - ⟨app, hmem, hid⟩
      obtain rfl := mem_singleton.1 hmem
      cases hid⟩ rfl
  have h3 := h2.step (.onConnected 4 1 0 "A" []) (fun _ => ⟨by decide, nofun⟩) rfl
  have h4 := h3.step (.onGetGattDb 1 (oneCharacteristic levelUuid)) (by rintro _ ⟨⟩; decide) rfl
  have h5 := h4.step (.onDisconnected 1) trivial rfl
  have h6 := h5.step (.onConnected 4 1 0 "B" []) (fun _ => ⟨by decide, by decide⟩) rfl
  have h7 := h6.step (.onGetGattDb 1 (oneCharacteristic reportUuid)) (by rintro _ ⟨⟩; decide) rfl
  obtain ⟨hguarded, -⟩ := hall _ _ _ h7 (.request 4 "B" (.readCharacteristic 12 0)) _ trivial rfl
  exact hguarded ⟨⟨1, "B", 4⟩, Gatt.onGetGattDb (oneCharacteristic reportUuid)⟩
    (mem_singleton.2 rfl) _ rfl ⟨reportUuid, 12, true⟩ (by decide) rfl
    (.readCharacteristic 1 12 0) (mem_singleton.2 rfl) ⟨rfl, rfl⟩

end Gatt.ClientLib
