import BtPlatform.Gatt.Value.Transfer

/-!
# Values that arrive unchanged

Each passage between the application and the stack, with what it needs of a value. A buffer
of the library holds a value if it is the value with a terminator behind it.
-/

namespace Gatt.Value

open Support List

/-! ## The copies -/

theorem vectVal_eq (value : List UInt8) : vectVal value = cText value := by
  unfold vectVal cText
  cases strlen value with
  | none => rfl
  | some len => rfl

theorem copied_eq {α : Type} (value : List UInt8) (store : List UInt8 → α) :
    ((strlen value).bind fun len => (memcpy value len).bind fun copy =>
      some (store (terminate copy))) = (cText value).map fun text => store (terminate text) := by
  unfold cText
  cases strlen value with
  | none => rfl
  | some len =>
      show ((memcpy value len).bind fun copy => some (store (terminate copy))) =
        (memcpy value len).map _
      cases memcpy value len with
      | none => rfl
      | some copy => rfl

theorem GattCharacteristic.setValue_some (value : List UInt8) (c : GattCharacteristic) :
    c.setValue (some value) =
      (cText value).map fun text => { c with mValue := some (terminate text) } :=
  copied_eq value fun copy => ({ c with mValue := some copy } : GattCharacteristic)

theorem GattDescriptor.setValue_some (value : List UInt8) (d : GattDescriptor) :
    d.setValue (some value) =
      (cText value).map fun text => { d with mValue := some (terminate text) } :=
  copied_eq value fun copy => ({ d with mValue := some copy } : GattDescriptor)

/-- The text of a value in a larger buffer is the value if a terminator follows. -/
theorem cText_value_iff {bytes after : List UInt8} :
    cText (bytes ++ after) = some bytes ↔ 0 ∉ bytes ∧ after.head? = some 0 := by
  rw [cText_eq_some_iff]
  refine and_congr_right fun _ => ?_
  constructor
  · rintro ⟨rest, h⟩
    rw [append_cancel_left h]
    rfl
  · intro h
    obtain ⟨rest, rfl⟩ := head?_eq_some_iff.1 h
    exact ⟨rest, rfl⟩

variable {text : List UInt8} {c : GattCharacteristic} {d : GattDescriptor}

theorem terminate_injective {text' : List UInt8} (h : terminate text = terminate text') :
    text = text' := append_cancel_right h

/-- A value that the stack delivers is copied whole. -/
theorem terminatedValue_holding (bytes rest : List UInt8) :
    terminatedValue (.holding bytes rest) = some (terminate bytes) := by
  unfold terminatedValue Unformatted.holding
  rw [memcpy_append]
  rfl

theorem logLength_terminate (text : List UInt8) : logLength (some (terminate text)) = some () := by
  show (strlen (text ++ [0])).map (fun _ => ()) = some ()
  have hmem : (0 : UInt8) ∈ text ++ [0] := mem_append_right _ (mem_singleton_self 0)
  obtain ⟨front, rest, heq, hfront⟩ := eq_append_cons_of_mem hmem
  rw [heq, strlen_append hfront]
  rfl

/-! ## The passages -/

/-- A passage of a value with everything it meets. `after` is what stands behind the value
in the buffer of the application (no buffer: a null pointer), `rest` what stands behind it
in the array of the stack, and `garbage` what a new memory block held. -/
inductive Passage where
  | writeCharacteristic (client : GattClient) (lib : Library) (c : GattCharacteristic)
      (after : List UInt8)
  | writeDescriptor (client : GattClient) (lib : Library) (d : GattDescriptor)
      (after : List UInt8)
  | notify (server : GattServer) (lib : Library) (c : GattCharacteristic) (confirm : Bool)
      (after : List UInt8)
  | respond (server : GattServer) (lib : Library) (maxAttrLen : Nat) (requestHandle : Option Int)
      (requestId status offset : Int) (after : Option (List UInt8))
  | readCharacteristic (client : GattClient) (arrival : Arrival) (rest : List UInt8)
      (c : GattCharacteristic)
  | readDescriptor (client : GattClient) (arrival : Arrival) (garbage : Unformatted)
      (rest : List UInt8) (d : GattDescriptor)
  | notification (client : GattClient) (arrival : Arrival) (rest : List UInt8)
      (c : GattCharacteristic)
  | requestWrite (arrival : Arrival) (garbage : UInt8)

/-- The request is not refused, and an event finds the application: nothing but the value
decides what arrives. -/
def Passage.Open (bytes : List UInt8) : Passage → Prop
  | .writeCharacteristic client lib c _ =>
      (c.mProperties &&& PROPERTY_WRITE = 0 → c.mProperties &&& PROPERTY_WRITE_NO_RESPONSE ≠ 0) ∧
        client.mService = true ∧ client.mClientIf ≠ 0 ∧
        (∃ device, c.device = some device ∧ device ≠ "") ∧ client.mDeviceBusy = false ∧
        0 ≤ lib.connId ∧ lib.permitted = true ∧ lib.sGattIf = true
  | .writeDescriptor client lib d _ =>
      client.mService = true ∧ client.mClientIf ≠ 0 ∧
        (∃ device, d.device = some device ∧ device ≠ "") ∧ client.mDeviceBusy = false ∧
        0 ≤ lib.connId ∧ lib.permitted = true ∧ lib.sGattIf = true
  | .notify server lib c _ _ =>
      server.mService = true ∧ server.mServerIf ≠ 0 ∧ c.device ≠ none ∧ 0 < lib.connId ∧
        lib.sGattIf = true
  | .respond server lib maxAttrLen _ _ _ _ after =>
      server.mService = true ∧ server.mServerIf ≠ 0 ∧ lib.sGattIf = true ∧
        GATT_MAX_ATTR_LEN ≤ maxAttrLen ∧ (after = none → bytes = [])
  | .readCharacteristic client arrival _ _ =>
      arrival.app = true ∧ arrival.sameAddress = true ∧ arrival.found = true ∧
        client.mCallback = true
  | .readDescriptor client arrival garbage _ _ =>
      arrival.app = true ∧ arrival.sameAddress = true ∧ arrival.found = true ∧
        client.mCallback = true ∧ garbage.value.length = GATT_MAX_ATTR_LEN
  | .notification client arrival _ _ =>
      arrival.permitted = true ∧ arrival.app = true ∧ arrival.sameAddress = true ∧
        arrival.found = true ∧ client.mCallback = true
  | .requestWrite arrival _ => arrival.app = true ∧ arrival.found = true

/-- The value arrives as it is, and no memory outside a buffer is looked at. -/
def Passage.Exact (bytes : List UInt8) : Passage → Prop
  | .writeCharacteristic client lib c after =>
      ∃ c' client', c.setValue (some (bytes ++ after)) = some c' ∧
        client.writeCharacteristic lib c' = some (client', true,
          [.writeCharacteristic lib.connId c.mInstance (if lib.reliable then 3 else c.mWriteType)
            AUTHENTICATION_NONE bytes])
  | .writeDescriptor client lib d after =>
      ∃ d', d.setValue (some (bytes ++ after)) = some d' ∧
        client.writeDescriptor lib d' = some (client, true,
          [.writeDescriptor lib.connId d.mInstance AUTHENTICATION_NONE bytes])
  | .notify server lib c confirm after =>
      ∃ c', c.setValue (some (bytes ++ after)) = some c' ∧
        server.notifyCharacteristicChanged lib c' confirm = some (.returned true
          [.sendIndication server.mServerIf c.mInstance lib.connId
            (if confirm then 1 else 0) bytes])
  | .respond server lib maxAttrLen requestHandle requestId status offset after =>
      server.sendResponse lib maxAttrLen requestHandle requestId status offset
          (after.map (bytes ++ ·)) = some (.returned true
        [.sendResponse (if lib.connId < 0 then 0 else lib.connId) requestId (status % 256)
          (requestHandle.getD 0) 0 offset bytes])
  | .readCharacteristic client arrival rest c =>
      ∃ client' c', characteristicReadArrives client arrival GATT_SUCCESS (.holding bytes rest) c =
        some (client', c') ∧ c'.mValue = some (terminate bytes)
  | .readDescriptor client arrival garbage rest d =>
      ∃ client' d', descriptorReadArrives client arrival garbage GATT_SUCCESS
        (.holding bytes rest) d = some (client', d') ∧ d'.mValue = some (terminate bytes)
  | .notification client arrival rest c =>
      ∃ c', notificationArrives client arrival (.holding bytes rest) c = some c' ∧
        c'.mValue = some (terminate bytes)
  | .requestWrite arrival garbage =>
      requestWriteArrives arrival garbage bytes = some (terminate bytes)

/-- What a passage needs: no zero in the value and a terminator behind it wherever it is set
or read (anywhere behind it where it fills the array of a response); something to write;
fewer than 256 bytes in a write request. A notification never arrives. An empty value that is
read from a descriptor, or written by a request, depends on the memory that is found. -/
def Passage.Careful (bytes : List UInt8) : Passage → Prop
  | .writeCharacteristic _ _ _ after => 0 ∉ bytes ∧ bytes ≠ [] ∧ after.head? = some 0
  | .writeDescriptor _ _ _ after => 0 ∉ bytes ∧ bytes ≠ [] ∧ after.head? = some 0
  | .notify _ _ _ _ after => 0 ∉ bytes ∧ after.head? = some 0
  | .respond _ _ maxAttrLen _ _ _ _ after =>
      ∀ behind, after = some behind → 0 ∉ bytes ∧
        (behind.head? = some 0 ∨ bytes.length = maxAttrLen ∧ 0 ∈ behind)
  | .readCharacteristic _ _ _ _ => 0 ∉ bytes
  | .readDescriptor _ _ garbage _ d =>
      if bytes = [] then
        if garbage.len = 0 then d.mValue = some (terminate [])
        else garbage.len ≤ GATT_MAX_ATTR_LEN ∧ garbage.value.head? = some 0
      else 0 ∉ bytes
  | .notification _ _ _ _ => False
  | .requestWrite _ garbage => bytes.length < 256 ∧ (bytes = [] → garbage = 0)

/-! ## From the application -/

section Outgoing

variable {bytes after : List UInt8}

variable {lib : Library} {maxAttrLen : Nat}

theorem library_writeCharacteristic (hconn : ¬ lib.connId < 0) (hpermitted : lib.permitted = true)
    (hstack : lib.sGattIf = true) (handle writeType authReq : Int) (htext : 0 ∉ text) :
    lib.writeCharacteristic handle writeType authReq (terminate text) =
      some (if text.length = 0 then [] else [.writeCharacteristic lib.connId handle
        (if lib.reliable then 3 else writeType) authReq text]) := by
  unfold Library.writeCharacteristic Library.gattClientWriteCharacteristicNative
  simp only [if_neg hconn, hpermitted, not_true, if_false, vectVal_eq,
    cText_terminate htext, hstack]
  rfl

theorem library_writeDescriptor (hconn : ¬ lib.connId < 0) (hpermitted : lib.permitted = true)
    (hstack : lib.sGattIf = true) (handle authReq : Int) (htext : 0 ∉ text) :
    lib.writeDescriptor handle authReq (terminate text) =
      some (if text.length = 0 then [] else
        [.writeDescriptor lib.connId handle authReq text]) := by
  unfold Library.writeDescriptor Library.gattClientWriteDescriptorNative
  simp only [if_neg hconn, hpermitted, not_true, if_false, vectVal_eq,
    cText_terminate htext, hstack]
  rfl

/-- What was set is there to be sent: the text of the buffer. -/
theorem sent_iff {β γ : Type} {buffer : List UInt8} {set : Option β} {put : List UInt8 → β}
    {send : β → Option γ} {out : List UInt8 → γ} {o : γ} (hset : set = (cText buffer).map put)
    (hsend : ∀ text, 0 ∉ text → send (put text) = some (out text)) :
    (∃ c, set = some c ∧ send c = some o) ↔ ∃ text, cText buffer = some text ∧ out text = o := by
  rw [hset]
  constructor
  · rintro ⟨c, hc, hsent⟩
    obtain ⟨text, htext, rfl⟩ := Option.map_eq_some_iff.1 hc
    rw [hsend text (cText_eq_some_iff.1 htext).1] at hsent
    exact ⟨text, htext, Option.some.inj hsent⟩
  · rintro ⟨text, htext, rfl⟩
    refine ⟨put text, ?_, hsend text (cText_eq_some_iff.1 htext).1⟩
    rw [htext]
    rfl

/-- Nothing is sent for an empty text. -/
theorem nonempty_sent_iff {β γ : Type} {buffer : List UInt8} {b b' : β} {f : List UInt8 → γ}
    (hf : ∀ text, f text = f bytes → text = bytes) :
    (∃ text, cText buffer = some text ∧
      (b, true, if text.length = 0 then [] else [f text]) = (b', true, [f bytes])) ↔
      b = b' ∧ cText buffer = some bytes ∧ bytes ≠ [] := by
  constructor
  · rintro ⟨text, htext, hout⟩
    obtain ⟨rfl, hrest⟩ := Prod.mk.inj hout
    replace hout := (Prod.mk.inj hrest).2
    by_cases hempty : text.length = 0
    · rw [if_pos hempty] at hout
      cases hout
    · rw [if_neg hempty] at hout
      obtain rfl := hf text (singleton_inj.1 hout)
      exact ⟨rfl, htext, fun hnil => hempty (by rw [hnil]; rfl)⟩
  · rintro ⟨rfl, htext, hne⟩
    refine ⟨bytes, htext, ?_⟩
    rw [if_neg fun hlen => hne (length_eq_zero_iff.1 hlen)]

theorem writeCharacteristic_exact_iff {client : GattClient}
    (h : Passage.Open bytes (.writeCharacteristic client lib c after)) :
    Passage.Exact bytes (.writeCharacteristic client lib c after) ↔
      cText (bytes ++ after) = some bytes ∧ bytes ≠ [] := by
  obtain ⟨hproperties, hservice, hclient, ⟨device, hdevice, hnamed⟩, hbusy, hconn, hpermitted,
    hstack⟩ := h
  have hwritten : ∀ text, 0 ∉ text →
      client.writeCharacteristic lib { c with mValue := some (terminate text) } =
        some ({ client with mDeviceBusy := true }, true,
          if text.length = 0 then [] else [.writeCharacteristic lib.connId c.mInstance
            (if lib.reliable then 3 else c.mWriteType) AUTHENTICATION_NONE text]) := by
    intro text htext
    unfold GattClient.writeCharacteristic
    rw [if_neg (fun hnone => hproperties hnone.1 hnone.2),
      if_neg (by simp [hservice, hclient])]
    simp only [hdevice, if_neg hnamed, hbusy, Bool.false_eq_true, if_false,
      library_writeCharacteristic (Int.not_lt.2 hconn) hpermitted hstack _ _ _ htext]
    rfl
  refine exists_comm.trans ((exists_congr fun client' =>
    (sent_iff (GattCharacteristic.setValue_some _ _) hwritten).trans
      (nonempty_sent_iff fun _ heq => ?_)).trans exists_eq_left')
  injection heq

theorem writeDescriptor_exact_iff {client : GattClient}
    (h : Passage.Open bytes (.writeDescriptor client lib d after)) :
    Passage.Exact bytes (.writeDescriptor client lib d after) ↔
      cText (bytes ++ after) = some bytes ∧ bytes ≠ [] := by
  obtain ⟨hservice, hclient, ⟨device, hdevice, hnamed⟩, hbusy, hconn, hpermitted, hstack⟩ := h
  have hwritten : ∀ text, 0 ∉ text →
      client.writeDescriptor lib { d with mValue := some (terminate text) } =
        some (client, true, if text.length = 0 then []
          else [.writeDescriptor lib.connId d.mInstance AUTHENTICATION_NONE text]) := by
    intro text htext
    unfold GattClient.writeDescriptor
    rw [if_neg (by simp [hservice, hclient])]
    simp only [hdevice, if_neg hnamed, hbusy, Bool.false_eq_true, if_false,
      library_writeDescriptor (Int.not_lt.2 hconn) hpermitted hstack _ _ htext]
    rfl
  refine ((sent_iff (GattDescriptor.setValue_some _ _) hwritten).trans
    (nonempty_sent_iff fun _ heq => ?_)).trans (and_iff_right rfl)
  injection heq

theorem notify_exact_iff {server : GattServer} {confirm : Bool}
    (h : Passage.Open bytes (.notify server lib c confirm after)) :
    Passage.Exact bytes (.notify server lib c confirm after) ↔
      cText (bytes ++ after) = some bytes := by
  obtain ⟨hservice, hserver, hdevice, hconn, hstack⟩ := h
  have hsent : ∀ text, 0 ∉ text →
      server.notifyCharacteristicChanged lib { c with mValue := some (terminate text) } confirm =
        some (.returned true [.sendIndication server.mServerIf c.mInstance lib.connId
          (if confirm then 1 else 0) text]) := by
    intro text htext
    unfold GattServer.notifyCharacteristicChanged
    rw [if_neg (by simp [hservice, hserver]), if_neg hdevice, if_neg nofun]
    unfold Library.sendNotification Library.valVec
    rw [if_neg (by omega)]
    simp only [vectVal_eq, cText_terminate htext]
    simp [hstack]
  refine (sent_iff (GattCharacteristic.setValue_some _ _) hsent).trans ⟨?_, fun htext =>
    ⟨bytes, htext, rfl⟩⟩
  rintro ⟨text, htext, hout⟩
  cases hout
  exact htext

/-- A response within the array of the stack is not cut. -/
theorem responseValue_eq {value : List UInt8} (h : value.length ≤ maxAttrLen) :
    Library.responseValue maxAttrLen value = value := by
  unfold Library.responseValue
  split
  · split
    · rfl
    · exact take_of_length_le h
  · next hempty => exact (length_eq_zero_iff.1 (Nat.eq_zero_of_not_pos hempty)).symm

theorem responseValue_cut {value : List UInt8} (h : maxAttrLen < value.length) :
    Library.responseValue maxAttrLen value = value.take maxAttrLen := by
  unfold Library.responseValue
  rw [if_pos (Nat.zero_lt_of_lt h), if_neg h.not_gt]

/-- The value of a response is the value that was given if that is the text of its buffer, or
fills the array. -/
theorem responseValue_text_iff {behind : List UInt8} (hfits : bytes.length ≤ maxAttrLen) :
    (∃ text, cText (bytes ++ behind) = some text ∧
      Library.responseValue maxAttrLen text = bytes) ↔
      0 ∉ bytes ∧ (behind.head? = some 0 ∨ bytes.length = maxAttrLen ∧ 0 ∈ behind) := by
  constructor
  · rintro ⟨text, htext, hvalue⟩
    by_cases hcut : text.length ≤ maxAttrLen
    · rw [responseValue_eq hcut] at hvalue
      subst hvalue
      obtain ⟨hzero, hbehind⟩ := cText_value_iff.1 htext
      exact ⟨hzero, .inl hbehind⟩
    · rw [responseValue_cut (Nat.lt_of_not_le hcut)] at hvalue
      obtain ⟨hzero, rest, hbuffer⟩ := cText_eq_some_iff.1 htext
      have hnone : 0 ∉ bytes := by
        rw [← hvalue]
        exact fun hmem => hzero (mem_of_mem_take hmem)
      refine ⟨hnone, .inr ⟨?_, ?_⟩⟩
      · rw [← hvalue, length_take, min_eq_left (Nat.le_of_not_le hcut)]
      · have hmem : (0 : UInt8) ∈ bytes ++ behind := by
          rw [hbuffer]
          exact mem_append_right _ mem_cons_self
        exact (mem_append.1 hmem).resolve_left hnone
  · rintro ⟨hzero, hbehind | ⟨hfull, hmem⟩⟩
    · exact ⟨bytes, cText_value_iff.2 ⟨hzero, hbehind⟩, responseValue_eq hfits⟩
    · obtain ⟨front, rest, rfl, hfront⟩ := eq_append_cons_of_mem hmem
      have hnone : (0 : UInt8) ∉ bytes ++ front := by
        rw [mem_append]
        exact fun h => h.elim hzero hfront
      refine ⟨bytes ++ front, ?_, ?_⟩
      · rw [← append_assoc]
        exact cText_append hnone rest
      · cases front with
        | nil => rw [append_nil, responseValue_eq hfits]
        | cons b front =>
            rw [responseValue_cut (by rw [length_append, length_cons]; omega), ← hfull,
              take_left]

theorem respond_exact_iff {server : GattServer} {requestHandle : Option Int}
    {requestId status offset : Int} {after : Option (List UInt8)}
    (hlength : bytes.length ≤ GATT_MAX_ATTR_LEN) (h : Passage.Open bytes
      (.respond server lib maxAttrLen requestHandle requestId status offset after)) :
    Passage.Exact bytes
        (.respond server lib maxAttrLen requestHandle requestId status offset after) ↔
      Passage.Careful bytes
        (.respond server lib maxAttrLen requestHandle requestId status offset after) := by
  obtain ⟨hservice, hserver, hstack, hroom, hnull⟩ := h
  have hrefused : ¬ (¬ server.mService = true ∨ server.mServerIf = 0) := by
    simp [hservice, hserver]
  cases after with
  | none =>
      obtain rfl := hnull rfl
      refine iff_of_true ?_ nofun
      show server.sendResponse lib maxAttrLen requestHandle requestId status offset none = _
      unfold GattServer.sendResponse Library.sendResponse Library.valVec
      rw [if_neg hrefused]
      simp only [hstack]
      rfl
  | some behind =>
      have hsent : server.sendResponse lib maxAttrLen requestHandle requestId status offset
          (some (bytes ++ behind)) = (cText (bytes ++ behind)).map fun text =>
            .returned true [.sendResponse (if lib.connId < 0 then 0 else lib.connId) requestId
              (status % 256) (requestHandle.getD 0) 0 offset
              (Library.responseValue maxAttrLen text)] := by
        unfold GattServer.sendResponse Library.sendResponse Library.valVec
        rw [if_neg hrefused]
        simp only [vectVal_eq, hstack]
        cases cText (bytes ++ behind) with
        | none => rfl
        | some text => rfl
      have hcareful : Passage.Careful bytes
          (.respond server lib maxAttrLen requestHandle requestId status offset (some behind)) ↔
          0 ∉ bytes ∧ (behind.head? = some 0 ∨ bytes.length = maxAttrLen ∧ 0 ∈ behind) := by
        constructor
        · intro hevery
          exact hevery behind rfl
        · rintro hone behind' hbehind
          cases hbehind
          exact hone
      rw [hcareful, ← responseValue_text_iff (hlength.trans hroom)]
      show server.sendResponse lib maxAttrLen requestHandle requestId status offset
        (some (bytes ++ behind)) = _ ↔ _
      rw [hsent, Option.map_eq_some_iff]
      refine exists_congr fun text => and_congr_right fun _ => ?_
      simp

end Outgoing

/-! ## To the application -/

section Incoming

variable {bytes rest : List UInt8} {client : GattClient} {arrival : Arrival}

theorem not_retries_success (client : GattClient) : ¬ client.retries GATT_SUCCESS := by
  rintro ⟨h | h, -⟩
  · exact absurd h (by decide)
  · exact absurd h (by decide)

theorem onCharacteristicRead_success (hsame : arrival.sameAddress = true)
    (hfound : arrival.found = true) (hcallback : client.mCallback = true)
    (value : Option (List UInt8)) (c : GattCharacteristic) :
    client.onCharacteristicRead arrival GATT_SUCCESS value c =
      (c.setValue value).map fun c' =>
        ({ client with mDeviceBusy := false, mAuthRetryState := AUTH_RETRY_STATE_IDLE }, c') := by
  unfold GattClient.onCharacteristicRead
  simp only [hsame, hfound, hcallback, not_true, if_false, or_self, not_retries_success, if_true]
  cases c.setValue value with
  | none => rfl
  | some c' => rfl

theorem onDescriptorRead_success (hsame : arrival.sameAddress = true)
    (hfound : arrival.found = true) (hcallback : client.mCallback = true)
    (value : Option (List UInt8)) (d : GattDescriptor) :
    ∃ client', client.onDescriptorRead arrival GATT_SUCCESS value d =
      (d.setValue value).map fun d' => (client', d') := by
  refine ⟨{ client with mDeviceBusy := false, mAuthRetryState := AUTH_RETRY_STATE_IDLE }, ?_⟩
  unfold GattClient.onDescriptorRead
  simp only [hsame, hfound, hcallback, not_true, if_false, not_retries_success, if_true,
    false_and, decide_false]
  cases d.setValue value with
  | none => rfl
  | some d' => rfl

/-- The text of a terminated copy is all that a second copy keeps of it. -/
theorem exists_cText_terminate (text : List UInt8) :
    ∃ kept, cText (terminate text) = some kept ∧ (kept = text ↔ 0 ∉ text) := by
  by_cases hzero : 0 ∈ text
  · obtain ⟨front, back, rfl, hfront⟩ := eq_append_cons_of_mem hzero
    refine ⟨front, ?_, iff_of_false ?_ (not_not.2 hzero)⟩
    · show cText ((front ++ 0 :: back) ++ [0]) = _
      rw [append_assoc]
      exact cText_append hfront _
    · intro heq
      have hlength := congrArg length heq
      rw [length_append, length_cons] at hlength
      omega
  · exact ⟨text, cText_terminate hzero, iff_of_true rfl hzero⟩

theorem readCharacteristic_exact_iff
    (h : Passage.Open bytes (.readCharacteristic client arrival rest c)) :
    Passage.Exact bytes (.readCharacteristic client arrival rest c) ↔ 0 ∉ bytes := by
  obtain ⟨happ, hsame, hfound, hcallback⟩ := h
  obtain ⟨kept, hkept, hiff⟩ := exists_cText_terminate bytes
  have harrives : characteristicReadArrives client arrival GATT_SUCCESS (.holding bytes rest) c =
      some ({ client with mDeviceBusy := false, mAuthRetryState := AUTH_RETRY_STATE_IDLE },
        { c with mValue := some (terminate kept) }) := by
    unfold characteristicReadArrives
    simp only [if_true, terminatedValue_holding, Option.map_some]
    show (logLength (some (terminate bytes)) >>= fun _ => _) = _
    rw [logLength_terminate]
    simp only [happ, not_true, if_false]
    show client.onCharacteristicRead arrival GATT_SUCCESS (some (terminate bytes)) c = _
    rw [onCharacteristicRead_success hsame hfound hcallback,
      GattCharacteristic.setValue_some, hkept]
    rfl
  rw [← hiff]
  constructor
  · rintro ⟨client', c', hread, hvalue⟩
    rw [harrives] at hread
    cases hread
    exact terminate_injective (Option.some.inj hvalue)
  · rintro rfl
    exact ⟨_, _, harrives, rfl⟩

/-- What the rest of a descriptor's read makes of a terminated copy. -/
theorem descriptorReadArrives_value {garbage : Unformatted} (happ : arrival.app = true)
    (hsame : arrival.sameAddress = true) (hfound : arrival.found = true)
    (hcallback : client.mCallback = true)
    (hlen : (descriptorEventValue garbage GATT_SUCCESS (.holding bytes rest)).len ≠ 0)
    (htext : terminatedValue (descriptorEventValue garbage GATT_SUCCESS (.holding bytes rest)) =
      some (terminate text)) :
    ∃ client' kept, descriptorReadArrives client arrival garbage GATT_SUCCESS
        (.holding bytes rest) d = some (client', { d with mValue := some (terminate kept) }) ∧
      cText (terminate text) = some kept := by
  obtain ⟨kept, hkept, -⟩ := exists_cText_terminate text
  obtain ⟨client', hread⟩ :=
    onDescriptorRead_success hsame hfound hcallback (some (terminate text)) d
  refine ⟨client', kept, ?_, hkept⟩
  unfold descriptorReadArrives
  simp only [if_pos hlen, htext, Option.map_some]
  show (logLength (some (terminate text)) >>= fun _ => _) = _
  rw [logLength_terminate]
  simp only [happ, not_true, if_false]
  show client.onDescriptorRead arrival GATT_SUCCESS (some (terminate text)) d = _
  rw [hread, GattDescriptor.setValue_some, hkept]
  rfl

theorem readDescriptor_exact_iff {garbage : Unformatted}
    (h : Passage.Open bytes (.readDescriptor client arrival garbage rest d)) :
    Passage.Exact bytes (.readDescriptor client arrival garbage rest d) ↔
      Passage.Careful bytes (.readDescriptor client arrival garbage rest d) := by
  obtain ⟨happ, hsame, hfound, hcallback, hgarbage⟩ := h
  by_cases hempty : bytes = []
  · subst hempty
    have hevent : descriptorEventValue garbage GATT_SUCCESS (.holding [] rest) = garbage :=
      if_neg fun hne => hne.2 rfl
    by_cases hlen : garbage.len = 0
    · have hcareful : Passage.Careful [] (.readDescriptor client arrival garbage rest d) ↔
          d.mValue = some (terminate []) := by
        simp only [Passage.Careful, if_true, hlen]
      obtain ⟨client', hread⟩ := onDescriptorRead_success hsame hfound hcallback none d
      have harrives : descriptorReadArrives client arrival garbage GATT_SUCCESS
          (.holding [] rest) d = some (client', d) := by
        unfold descriptorReadArrives
        simp only [hevent, hlen, ne_eq, not_true, if_false, happ]
        exact hread
      rw [hcareful]
      constructor
      · rintro ⟨_, d', hd', hvalue⟩
        rw [harrives] at hd'
        cases hd'
        exact hvalue
      · intro hvalue
        exact ⟨client', d, harrives, hvalue⟩
    · have hcareful : Passage.Careful [] (.readDescriptor client arrival garbage rest d) ↔
          garbage.len ≤ GATT_MAX_ATTR_LEN ∧ garbage.value.head? = some 0 := by
        simp only [Passage.Careful, if_true, if_neg hlen]
      rw [hcareful]
      by_cases hfits : garbage.len ≤ GATT_MAX_ATTR_LEN
      · have htext : terminatedValue garbage =
          some (terminate (garbage.value.take garbage.len)) := by
          unfold terminatedValue memcpy
          rw [if_pos (by rw [hgarbage]; exact hfits)]
          rfl
        obtain ⟨client', kept, harrives, hkept⟩ := @descriptorReadArrives_value
          (garbage.value.take garbage.len) d [] rest client arrival garbage happ hsame hfound
          hcallback (by rw [hevent]; exact hlen) (by rw [hevent]; exact htext)
        have hexact : Passage.Exact [] (.readDescriptor client arrival garbage rest d) ↔
            kept = [] := by
          constructor
          · rintro ⟨_, d', hd', hvalue⟩
            rw [harrives] at hd'
            cases hd'
            exact terminate_injective (Option.some.inj hvalue)
          · rintro rfl
            exact ⟨client', _, harrives, rfl⟩
        rw [hexact, and_iff_right hfits]
        obtain ⟨hzero, back, hbuffer⟩ := cText_eq_some_iff.1 hkept
        -- the first byte that was found is the first byte of the copy
        cases hvalue : garbage.value with
        | nil =>
            rw [hvalue] at hgarbage
            cases hgarbage
        | cons b value =>
            obtain ⟨n, hn⟩ := Nat.exists_eq_succ_of_ne_zero hlen
            rw [hvalue, hn] at hbuffer
            rw [head?_cons, Option.some.injEq]
            cases kept with
            | nil =>
                refine iff_of_true rfl ?_
                injection hbuffer
            | cons k kept =>
                refine iff_of_false nofun ?_
                rintro rfl
                injection hbuffer with hk _
                exact hzero (hk ▸ mem_cons_self)
      · refine iff_of_false ?_ fun hcareful => hfits hcareful.1
        rintro ⟨_, d', hd', -⟩
        have hnone : terminatedValue garbage = none := by
          unfold terminatedValue memcpy
          rw [if_neg (by rw [hgarbage]; exact hfits)]
          rfl
        unfold descriptorReadArrives at hd'
        simp only [hevent, ne_eq, hlen, not_false_iff, if_true, hnone, Option.map_none] at hd'
        cases hd'
  · have hlen : bytes.length ≠ 0 := fun hlen => hempty (length_eq_zero_iff.1 hlen)
    have hevent : descriptorEventValue garbage GATT_SUCCESS (.holding bytes rest) =
        .holding bytes rest := if_pos ⟨rfl, hlen⟩
    have hcareful : Passage.Careful bytes (.readDescriptor client arrival garbage rest d) ↔
        0 ∉ bytes := by
      simp only [Passage.Careful, if_neg hempty]
    obtain ⟨client', kept, harrives, hkept⟩ := @descriptorReadArrives_value bytes d bytes rest
      client arrival garbage happ hsame hfound hcallback (by rw [hevent]; exact hlen)
      (by rw [hevent]; exact terminatedValue_holding bytes rest)
    rw [hcareful, ← cText_terminate_iff, hkept, Option.some.injEq]
    constructor
    · rintro ⟨_, d', hd', hvalue⟩
      rw [harrives] at hd'
      cases hd'
      exact terminate_injective (Option.some.inj hvalue)
    · rintro rfl
      exact ⟨client', _, harrives, rfl⟩

/-- A notification is read past its end, or cut at a zero of its own. -/
theorem not_notification_exact (h : Passage.Open bytes (.notification client arrival rest c)) :
    ¬ Passage.Exact bytes (.notification client arrival rest c) := by
  obtain ⟨hpermitted, happ, hsame, hfound, hcallback⟩ := h
  rintro ⟨c', harrives, hvalue⟩
  have hcopy : notifyValue (.holding bytes rest) = some bytes := memcpy_append bytes rest
  unfold notificationArrives at harrives
  rw [hcopy] at harrives
  by_cases hzero : 0 ∈ bytes
  · have hlog : logLength (some bytes) = some () := by
      obtain ⟨front, back, rfl, hfront⟩ := eq_append_cons_of_mem hzero
      show (strlen (front ++ 0 :: back)).map (fun _ => ()) = some ()
      rw [strlen_append hfront]
      rfl
    have hset : c.setValue (some bytes) = some c' := by
      rw [← harrives]
      show _ = (logLength (some bytes) >>= fun _ => _)
      rw [hlog]
      simp only [hpermitted, happ, not_true, or_self, if_false]
      show _ = client.onNotify arrival (some bytes) c
      unfold GattClient.onNotify
      simp only [hsame, hfound, hcallback, not_true, or_self, if_false]
    rw [GattCharacteristic.setValue_some] at hset
    obtain ⟨text, htext, rfl⟩ := Option.map_eq_some_iff.1 hset
    have hshort := length_lt_of_cText htext
    have heq : text = bytes := terminate_injective (Option.some.inj hvalue)
    rw [heq] at hshort
    exact lt_irrefl _ hshort
  · have hlog : logLength (some bytes) = none := by
      show (strlen bytes).map (fun _ => ()) = none
      rw [strlen_of_notMem hzero]
      rfl
    have hnone : (none : Option GattCharacteristic) = some c' := by
      rw [← harrives]
      show _ = (logLength (some bytes) >>= fun _ => _)
      rw [hlog]
      rfl
    cases hnone

theorem requestWrite_exact_iff {garbage : UInt8}
    (h : Passage.Open bytes (.requestWrite arrival garbage)) :
    Passage.Exact bytes (.requestWrite arrival garbage) ↔
      bytes.length < 256 ∧ (bytes = [] → garbage = 0) := by
  have harrives : requestWriteArrives arrival garbage bytes =
      some (requestWriteValue garbage bytes) := if_pos h
  show requestWriteArrives arrival garbage bytes = _ ↔ _
  rw [harrives, Option.some.injEq]
  unfold requestWriteValue terminate
  by_cases hlen : bytes.length % 256 = 0
  · rw [if_pos hlen]
    constructor
    · intro heq
      have hlength := congrArg length heq
      rw [length_append, length_singleton, length_singleton] at hlength
      obtain rfl : bytes = [] := length_eq_zero_iff.1 (by omega)
      cases heq
      exact ⟨by decide, fun _ => rfl⟩
    · rintro ⟨hlt, hgarbage⟩
      obtain rfl : bytes = [] := length_eq_zero_iff.1 (by omega)
      rw [hgarbage rfl]
      rfl
  · rw [if_neg hlen, append_left_inj]
    constructor
    · intro htake
      have hlength := congrArg length htake
      rw [length_take] at hlength
      have hle : bytes.length ≤ bytes.length % 256 := by omega
      have hlt := Nat.mod_lt bytes.length (by decide : 0 < 256)
      refine ⟨hle.trans_lt hlt, ?_⟩
      rintro rfl
      exact absurd rfl hlen
    · rintro ⟨hlt, -⟩
      rw [Nat.mod_eq_of_lt hlt, take_length]

end Incoming

section Configuration

/-- A client of a connected device. -/
def connectedClient : GattClient := ⟨true, 1, true, false, AUTH_RETRY_STATE_IDLE⟩

def connectedLibrary : Library := ⟨1, true, false, true⟩

/-- The client characteristic configuration of a characteristic. -/
def configuration : GattDescriptor := ⟨42, some "00:11:22:33:44:55", none⟩

end Configuration

end Gatt.Value
