import BtPlatform.Obex.Lower.Receive

/-!
# The reassembly buffer

Every request made of `recv` stays inside the reassembly buffer as long as the length
field of a packet is not below the number of bytes read before it was looked at, and
the first read of a packet is not longer than the buffer. `requests_fit_iff` states
this for whole runs.

Under these conditions a call does one of three things: it closes the connection, it
reads on, or it completes a packet.
-/

namespace Obex.Lower

open Support Format Program Prog List

/-! ## The property -/

/-- A request for a number of bytes that the buffer has room for. -/
def RequestFits (mtu : Nat) (request : Nat × Int) : Prop :=
  0 ≤ request.2 ∧ (request.1 : Int) + request.2 ≤ mtu

/-- Between calls the position is within the packet and the packet within the buffer. -/
def Positioned (s : Link) : Prop :=
  s.isOpen → s.lowerPrivate.readLen ≠ 0 →
    s.lowerPrivate.readPos ≤ s.lowerPrivate.readLen ∧ s.lowerPrivate.readLen ≤ s.lowerPrivate.mtu

/-- The requests made so far fit, and the position is right. -/
structure Safe (s : Link) : Prop where
  requests : ∀ request ∈ s.requests, RequestFits s.lowerPrivate.mtu request
  positioned : Positioned s

/-- The bytes of the packet that are there. -/
def Link.reassembled (s : Link) : List UInt8 :=
  s.lowerPrivate.readBuffer.take s.lowerPrivate.readPos

/-- The bytes of a new packet at hand after the first read of a call. -/
def Link.firstBytes (s : Link) : List UInt8 :=
  s.reassembled ++
    s.arriving (s.lowerPrivate.firstRead - s.lowerPrivate.readPos)

/-- The condition on a call that starts a packet or is still reading its first bytes: the
first read fits, and once the length field is at hand it is too large for the buffer or
not below the number of bytes at hand. -/
def HeaderFits (s : Link) : Prop :=
  s.lowerPrivate.readLen = 0 →
    s.lowerPrivate.readPos ≤ s.lowerPrivate.firstRead ∧
      s.lowerPrivate.firstRead ≤ s.lowerPrivate.mtu ∧
      ∀ len, lengthField s.firstBytes = .ok len → s.lowerPrivate.mtu < len ∨
        s.firstBytes.length ≤ len

/-! ## The parts of a call -/

section Parts

variable {s s' : Link} {n : Nat}

theorem sizeT_natCast (h : n < 65536) : sizeT n = n := by
  unfold sizeT
  omega

/-- The state after a request that fits. -/
def Link.read (s : Link) (n : Nat) : Link :=
  { s with
    requests := s.requests ++ [(s.lowerPrivate.readPos, (n : Int))]
    socket := s.remaining n
    lowerPrivate := { s.lowerPrivate with
      readBuffer := overwrite s.lowerPrivate.readBuffer s.lowerPrivate.readPos (s.arriving n) } }

theorem overwrite_nil (buffer : List UInt8) (pos : Nat) : overwrite buffer pos [] = buffer := by
  simp [overwrite]

theorem arriving_length_le (s : Link) (n : Nat) : (s.arriving n).length ≤ n :=
  length_take_le _ _

/-- A request that fits yields what is arriving. -/
theorem recv_ends (hn : n < 65536)
    (hroom : s.lowerPrivate.readPos + n ≤ s.lowerPrivate.readBuffer.length) :
    Ends (recv n) s
      (if (s.arriving n).isEmpty then none else some (s.arriving n).length) (s.read n) := by
  refine ends_bind_view.2 (ends_bind_update.2 ?_)
  simp only [id, sizeT_natCast hn]
  by_cases hempty : (s.arriving n).isEmpty
  · rw [if_pos hempty, if_pos hempty]
    refine ends_pure.2 ⟨rfl, ?_⟩
    rw [Link.read, isEmpty_iff.1 hempty, overwrite_nil]
  · have hfits : s.lowerPrivate.readPos + (s.arriving n).length ≤
        s.lowerPrivate.readBuffer.length := by
      have := arriving_length_le s n
      omega
    rw [if_neg hempty, if_neg hempty, if_pos hfits]
    exact ends_bind_update.2 (ends_pure.2 ⟨rfl, rfl⟩)

/-- Every request is recorded. -/
theorem recv_requests {k : Int} {recvBytes : Option Nat} (h : Ends (recv k) s recvBytes s') :
    s'.requests = s.requests ++ [(s.lowerPrivate.readPos, k)] := by
  replace h := ends_bind_view.1 h
  replace h := ends_bind_update.1 h
  split at h
  · obtain ⟨-, rfl⟩ := ends_pure.1 h
    rfl
  split at h
  · replace h := ends_bind_update.1 h
    obtain ⟨-, rfl⟩ := ends_pure.1 h
    rfl
  · exact absurd h ends_fault

/-- The state after a request that has yielded something. -/
def Link.take (s : Link) (n : Nat) : Link :=
  { s.read n with lowerPrivate := { (s.read n).lowerPrivate with
      readPos := s.lowerPrivate.readPos + (s.arriving n).length } }

/-- The state after a packet was passed up. -/
def Link.complete (s : Link) : Link :=
  { s with
    lowerPrivate := { s.lowerPrivate with readPos := 0, readLen := 0 }
    delivered := s.delivered ++ [s.lowerPrivate.readBuffer.take s.lowerPrivate.readLen] }

/-- The state after the connection was closed. -/
def Link.close (s : Link) : Link := { s with isOpen := false }

/-- The state in which the length field has been read. -/
def Link.withLength (s : Link) (len : Nat) : Link :=
  { s with lowerPrivate := { s.lowerPrivate with readLen := len } }

theorem advance_ends {k : Nat} (h : s.lowerPrivate.readPos + k < 65536) :
    Ends (advance k) s ()
      { s with lowerPrivate := { s.lowerPrivate with readPos := s.lowerPrivate.readPos + k } } := by
  refine ends_update.2 ?_
  rw [Nat.mod_eq_of_lt h]

theorem passUp_ends (s : Link) :
    Ends passUp s true
      (if s.lowerPrivate.readPos = s.lowerPrivate.readLen then s.complete else s) := by
  refine ends_bind_view.2 (ends_bind.2 ⟨(), _, ?_, ends_pure.2 ⟨rfl, rfl⟩⟩)
  rw [ends_only]
  by_cases hdone : s.lowerPrivate.readPos = s.lowerPrivate.readLen
  · rw [if_pos hdone]
    exact .inl ⟨hdone, ends_update.2 rfl⟩
  · rw [if_neg hdone]
    exact .inr ⟨hdone, rfl⟩

theorem take_readPos (s : Link) (n : Nat) :
    (s.take n).lowerPrivate.readPos = s.lowerPrivate.readPos + (s.arriving n).length := rfl

theorem take_readLen (s : Link) (n : Nat) :
    (s.take n).lowerPrivate.readLen = s.lowerPrivate.readLen := rfl

/-- What the second read of a call does. -/
def Link.remainder (s : Link) : Bool × Link :=
  let n := s.lowerPrivate.readLen - s.lowerPrivate.readPos
  if n = 0 then (true, s.complete)
  else if (s.arriving n).isEmpty then (false, (s.read n).close)
  else if (s.arriving n).length = n then (true, (s.take n).complete)
  else (true, s.take n)

theorem readRemainder_ends (hpos : s.lowerPrivate.readPos ≤ s.lowerPrivate.readLen)
    (hlen : s.lowerPrivate.readLen ≤ s.lowerPrivate.readBuffer.length)
    (hlt : s.lowerPrivate.readBuffer.length < 65536) :
    Ends readRemainder s s.remainder.1 s.remainder.2 := by
  have hcast : (s.lowerPrivate.readLen : Int) - s.lowerPrivate.readPos =
      ((s.lowerPrivate.readLen - s.lowerPrivate.readPos : Nat) : Int) := by omega
  refine ends_bind_view.2 ?_
  unfold Link.remainder
  dsimp only
  generalize hn : s.lowerPrivate.readLen - s.lowerPrivate.readPos = n at hcast
  by_cases hzero : n = 0
  · rw [if_neg (by omega), if_pos hzero]
    have hpass := passUp_ends s
    rw [if_pos (by omega)] at hpass
    exact hpass
  rw [if_pos (by omega), if_neg hzero, hcast]
  have hrecv := recv_ends (s := s) (n := n) (by omega) (by omega)
  refine ends_bind.2 ⟨_, _, hrecv, ?_⟩
  by_cases hempty : (s.arriving n).isEmpty
  · rw [if_pos hempty, if_pos hempty]
    exact ends_bind_update.2 (ends_pure.2 ⟨rfl, rfl⟩)
  rw [if_neg hempty, if_neg hempty]
  have hle := arriving_length_le s n
  refine ends_bind.2 ⟨(), s.take n, advance_ends (show _ < _ from ?_), ?_⟩
  · show s.lowerPrivate.readPos + (s.arriving n).length < 65536
    omega
  have hpass := passUp_ends (s.take n)
  rw [take_readPos, take_readLen] at hpass
  by_cases hdone : (s.arriving n).length = n
  · rw [if_pos (by omega)] at hpass
    rw [if_pos hdone]
    exact hpass
  · rw [if_neg (by omega)] at hpass
    rw [if_neg hdone]
    exact hpass

/-- What a call does, as long as its requests fit. -/
def Link.call (s : Link) : Bool × Link :=
  if s.lowerPrivate.readLen = 0 then
    let n := s.lowerPrivate.firstRead - s.lowerPrivate.readPos
    if (s.arriving n).isEmpty then (false, (s.read n).close)
    else
      match lengthField (s.take n).reassembled with
      | .error _ => (true, s.take n)
      | .ok len =>
          if s.lowerPrivate.mtu < len then (false, ((s.take n).withLength len).close)
          else ((s.take n).withLength len).remainder
  else s.remainder

theorem lengthField_take {buffer : List UInt8} {k : Nat} (h : 3 ≤ k) :
    lengthField (buffer.take k) = lengthField buffer := by
  obtain ⟨k, rfl⟩ := Nat.exists_eq_add_of_le h
  rw [Nat.add_comm]
  match buffer with
  | [] => rfl
  | [_] => rfl
  | [_, _] => rfl
  | _ :: _ :: _ :: _ => rfl

theorem lengthField_short {bytes : List UInt8} (h : bytes.length < 3) :
    lengthField bytes = .error .outOfBounds := by
  match bytes with
  | [] => rfl
  | [_] => rfl
  | [_, _] => rfl
  | _ :: _ :: _ :: _ =>
      simp only [length_cons] at h
      omega

theorem lengthField_long {bytes : List UInt8} (h : 3 ≤ bytes.length) :
    ∃ len, lengthField bytes = .ok len ∧ len < 65536 := by
  match bytes with
  | _ :: hi :: lo :: _ => exact ⟨_, rfl, ofBigEndian16_lt hi lo⟩

/-- What is read is put behind what is there. -/
theorem take_reassembled (hroom : s.lowerPrivate.readPos + (s.arriving n).length ≤
    s.lowerPrivate.readBuffer.length) :
    (s.take n).reassembled = s.reassembled ++ s.arriving n := by
  show (overwrite _ _ _).take _ = _
  rw [overwrite, Link.reassembled, take_left']
  rw [length_append, length_take_of_le (by omega), take_readPos]

theorem reassembled_length (h : s.lowerPrivate.readPos ≤ s.lowerPrivate.readBuffer.length) :
    s.reassembled.length = s.lowerPrivate.readPos := length_take_of_le h

end Parts

/-! ## The invariant -/

/-- The state of an open connection between calls: either fewer bytes are there than the
length field needs, or the packet is known to fit and is not yet complete. -/
structure Sound (s : Link) : Prop where
  capacity : s.lowerPrivate.readBuffer.length = s.lowerPrivate.mtu
  mtu_lt : s.lowerPrivate.mtu < 65536
  phase : s.isOpen →
    (s.lowerPrivate.readLen = 0 ∧ s.lowerPrivate.readPos < smallestPkt) ∨
      (smallestPkt ≤ s.lowerPrivate.readLen ∧
        s.lowerPrivate.readPos < s.lowerPrivate.readLen ∧
        s.lowerPrivate.readLen ≤ s.lowerPrivate.mtu)

/-- What a call may do to a link: the buffer keeps its size, and further requests fit. -/
structure Advances (s s' : Link) : Prop where
  mtu : s'.lowerPrivate.mtu = s.lowerPrivate.mtu
  protocol : s'.lowerPrivate.firstRead = s.lowerPrivate.firstRead
  capacity : s'.lowerPrivate.readBuffer.length = s.lowerPrivate.readBuffer.length
  requests : ∃ new, s'.requests = s.requests ++ new ∧
    ∀ request ∈ new, RequestFits s.lowerPrivate.mtu request

instance : IsPreorder Link Advances where
  refl s := ⟨rfl, rfl, rfl, [], by simp, by simp⟩
  trans s₁ s₂ s₃ h₁ h₂ := by
    obtain ⟨new₁, hreq₁, hfits₁⟩ := h₁.requests
    obtain ⟨new₂, hreq₂, hfits₂⟩ := h₂.requests
    refine ⟨h₂.mtu.trans h₁.mtu, h₂.protocol.trans h₁.protocol, h₂.capacity.trans h₁.capacity,
      new₁ ++ new₂, by rw [hreq₂, hreq₁, append_assoc], ?_⟩
    intro request hmem
    rcases mem_append.1 hmem with hmem | hmem
    · exact hfits₁ request hmem
    · rw [← h₁.mtu]
      exact hfits₂ request hmem

section Invariant

variable {s : Link} {n : Nat}

theorem read_advances (hcap : s.lowerPrivate.readBuffer.length = s.lowerPrivate.mtu)
    (hroom : s.lowerPrivate.readPos + n ≤ s.lowerPrivate.mtu) : Advances s (s.read n) := by
  refine ⟨rfl, rfl, ?_, [(s.lowerPrivate.readPos, (n : Int))], rfl, ?_⟩
  · have hle := arriving_length_le s n
    show (overwrite _ _ _).length = _
    simp only [overwrite, length_append, length_take, length_drop]
    omega
  · intro request hmem
    obtain rfl := mem_singleton.1 hmem
    exact ⟨by omega, by dsimp only; omega⟩

theorem take_advances (hcap : s.lowerPrivate.readBuffer.length = s.lowerPrivate.mtu)
    (hroom : s.lowerPrivate.readPos + n ≤ s.lowerPrivate.mtu) : Advances s (s.take n) :=
  have h := read_advances hcap hroom
  ⟨h.mtu, h.protocol, h.capacity, h.requests⟩

theorem complete_advances (s : Link) : Advances s s.complete :=
  ⟨rfl, rfl, rfl, [], (append_nil _).symm, nofun⟩

theorem close_advances {s : Link} : Advances s s.close :=
  ⟨rfl, rfl, rfl, [], (append_nil _).symm, nofun⟩

theorem withLength_advances (s : Link) (len : Nat) : Advances s (s.withLength len) :=
  ⟨rfl, rfl, rfl, [], (append_nil _).symm, nofun⟩

/-- The second read keeps the invariant, and its request fits. -/
theorem remainder_sound (hcap : s.lowerPrivate.readBuffer.length = s.lowerPrivate.mtu)
    (hlt : s.lowerPrivate.mtu < 65536) (hmin : smallestPkt ≤ s.lowerPrivate.readLen)
    (hpos : s.lowerPrivate.readPos ≤ s.lowerPrivate.readLen)
    (hlen : s.lowerPrivate.readLen ≤ s.lowerPrivate.mtu) :
    Advances s s.remainder.2 ∧ Sound s.remainder.2 := by
  have hstart : smallestPkt > 0 := by decide
  unfold Link.remainder
  dsimp only
  generalize hn : s.lowerPrivate.readLen - s.lowerPrivate.readPos = n
  have hroom : s.lowerPrivate.readPos + n ≤ s.lowerPrivate.mtu := by omega
  have hread := read_advances hcap hroom
  have htake := take_advances hcap hroom
  split
  · exact ⟨complete_advances s, hcap, hlt, fun _ => .inl ⟨rfl, hstart⟩⟩
  split
  · exact ⟨trans_of _ hread close_advances, hread.capacity.trans hcap, hlt, nofun⟩
  split
  · exact ⟨trans_of _ htake (complete_advances _), htake.capacity.trans hcap, hlt,
      fun _ => .inl ⟨rfl, hstart⟩⟩
  · next hzero hempty hpart =>
      refine ⟨htake, htake.capacity.trans hcap, hlt, fun _ => .inr ⟨hmin, ?_, hlen⟩⟩
      have hle := arriving_length_le s n
      show s.lowerPrivate.readPos + (s.arriving n).length < s.lowerPrivate.readLen
      omega

/-- A call whose first read and length field fit keeps the invariant, and all its requests
fit. -/
theorem call_sound (hsound : Sound s) (hopen : s.isOpen) (hfits : HeaderFits s) :
    Advances s s.call.2 ∧ Sound s.call.2 := by
  have hthree : smallestPkt = 3 := rfl
  obtain ⟨hcap, hlt, hphase⟩ := hsound
  unfold Link.call
  obtain ⟨hzero, hshort⟩ | ⟨hmin, hpos, hlen⟩ := hphase hopen
  · obtain ⟨hfirst, hmtu, hfield⟩ := hfits hzero
    rw [if_pos hzero]
    dsimp only
    generalize hn : s.lowerPrivate.firstRead - s.lowerPrivate.readPos = n
    have hroom : s.lowerPrivate.readPos + n ≤ s.lowerPrivate.mtu := by omega
    have hle := arriving_length_le s n
    have hread := read_advances hcap hroom
    have htake := take_advances hcap hroom
    have hbytes : (s.take n).reassembled = s.firstBytes := by
      rw [take_reassembled (by omega), Link.firstBytes, hn]
    have hcount : s.firstBytes.length = s.lowerPrivate.readPos + (s.arriving n).length := by
      rw [← hbytes, reassembled_length (by rw [htake.capacity, take_readPos]; omega), take_readPos]
    split
    · exact ⟨trans_of _ hread close_advances, hread.capacity.trans hcap, hlt, nofun⟩
    rw [hbytes]
    by_cases hbelow : s.firstBytes.length < smallestPkt
    · rw [lengthField_short hbelow]
      refine ⟨htake, htake.capacity.trans hcap, hlt, fun _ => .inl ⟨hzero, ?_⟩⟩
      rw [take_readPos, ← hcount]
      exact hbelow
    · obtain ⟨len, hlenField, -⟩ := lengthField_long (Nat.le_of_not_lt hbelow)
      rw [hlenField]
      dsimp only
      have hlenFits := hfield len hlenField
      have hwith := trans_of _ htake (withLength_advances (s.take n) len)
      split
      · exact ⟨trans_of _ hwith close_advances, hwith.capacity.trans hcap, hlt,
          nofun⟩
      · have hrest := remainder_sound (s := (s.take n).withLength len)
          (hwith.capacity.trans hcap) hlt (show 3 ≤ len by omega)
          (show s.lowerPrivate.readPos + (s.arriving n).length ≤ len by omega)
          (show len ≤ s.lowerPrivate.mtu by omega)
        exact ⟨trans_of _ hwith hrest.1, hrest.2⟩
  · rw [if_neg (by omega)]
    exact remainder_sound hcap hlt hmin (Nat.le_of_lt hpos) hlen

/-- A call whose first read and length field fit does what `Link.call` says. -/
theorem call_ends (hsound : Sound s) (hopen : s.isOpen) (hfits : HeaderFits s) :
    Ends lowerTransportRecvDataInd s s.call.1 s.call.2 := by
  have hthree : smallestPkt = 3 := rfl
  obtain ⟨hcap, hlt, hphase⟩ := hsound
  refine ends_bind_view.2 ?_
  unfold Link.call
  obtain ⟨hzero, hshort⟩ | ⟨hmin, hpos, hlen⟩ := hphase hopen
  · obtain ⟨hfirst, hmtu, hfield⟩ := hfits hzero
    rw [if_pos hzero, if_pos hzero]
    have hcast : (s.lowerPrivate.firstRead : Int) - s.lowerPrivate.readPos =
        ((s.lowerPrivate.firstRead - s.lowerPrivate.readPos : Nat) : Int) := by omega
    rw [hcast]
    dsimp only
    generalize hn : s.lowerPrivate.firstRead - s.lowerPrivate.readPos = n
    have hroom : s.lowerPrivate.readPos + n ≤ s.lowerPrivate.mtu := by omega
    have hle := arriving_length_le s n
    have htake := take_advances hcap hroom
    have hbytes : (s.take n).reassembled = s.firstBytes := by
      rw [take_reassembled (by omega), Link.firstBytes, hn]
    have hcount : s.firstBytes.length = s.lowerPrivate.readPos + (s.arriving n).length := by
      rw [← hbytes, reassembled_length (by rw [htake.capacity, take_readPos]; omega), take_readPos]
    refine ends_bind.2 ⟨_, _, recv_ends (by omega) (by omega), ?_⟩
    by_cases hempty : (s.arriving n).isEmpty
    · rw [if_pos hempty, if_pos hempty]
      exact ends_bind_update.2 (ends_pure.2 ⟨rfl, rfl⟩)
    rw [if_neg hempty, if_neg hempty, hbytes]
    refine ends_bind.2 ⟨(), s.take n, advance_ends ?_, ends_bind_view.2 ?_⟩
    · show s.lowerPrivate.readPos + (s.arriving n).length < 65536
      omega
    rw [take_readPos, ← hcount]
    by_cases hbelow : s.firstBytes.length < smallestPkt
    · rw [if_pos hbelow, lengthField_short hbelow]
      exact ends_pure.2 ⟨rfl, rfl⟩
    · obtain ⟨len, hlenField, -⟩ := lengthField_long (Nat.le_of_not_lt hbelow)
      have hlenFits := hfield len hlenField
      have hbuffer : lengthField (s.take n).lowerPrivate.readBuffer = .ok len := by
        rw [← hlenField, ← hbytes, Link.reassembled, lengthField_take]
        rw [take_readPos]
        omega
      rw [if_neg hbelow, hlenField, hbuffer]
      refine ends_bind.2 ⟨len, s.take n, ends_lift.2 ⟨rfl, rfl⟩, ends_bind_update.2 ?_⟩
      by_cases hlarge : s.lowerPrivate.mtu < len
      · rw [if_pos (show (s.take n).lowerPrivate.mtu < len from hlarge)]
        dsimp only
        rw [if_pos hlarge]
        exact ends_bind_update.2 (ends_pure.2 ⟨rfl, rfl⟩)
      · rw [if_neg (show ¬ (s.take n).lowerPrivate.mtu < len from hlarge)]
        dsimp only
        rw [if_neg hlarge]
        have hbufferLength : (s.take n).lowerPrivate.readBuffer.length = s.lowerPrivate.mtu :=
          htake.capacity.trans hcap
        exact readRemainder_ends (s := (s.take n).withLength len)
          (show s.lowerPrivate.readPos + (s.arriving n).length ≤ len by omega)
          (show len ≤ (s.take n).lowerPrivate.readBuffer.length by omega)
          (show (s.take n).lowerPrivate.readBuffer.length < 65536 by omega)
  · rw [if_neg (by omega), if_neg (by omega)]
    exact readRemainder_ends (Nat.le_of_lt hpos) (by omega) (by omega)

end Invariant

/-! ## Requests that do not fit -/

/-- Requests are recorded for good, and the size of the buffer does not change. -/
structure Records (s s' : Link) : Prop where
  mtu : s'.lowerPrivate.mtu = s.lowerPrivate.mtu
  requests : s.requests <+: s'.requests

instance : IsPreorder Link Records where
  refl _ := ⟨rfl, prefix_rfl⟩
  trans _ _ _ h₁ h₂ := ⟨h₂.mtu.trans h₁.mtu, h₁.requests.trans h₂.requests⟩

section Records

variable {s s' : Link}

theorem recv_records {k : Int} : Within Records (recv k) :=
  .seq .view <|
    .seq (.update fun _ => ⟨rfl, prefix_append _ _⟩) <|
      .ite .pure (.ite
        (.seq (.update fun _ => ⟨rfl, prefix_rfl⟩) .pure) .fault)

theorem advance_records {k : Nat} : Within Records (advance k) :=
  .update fun _ => ⟨rfl, prefix_rfl⟩

theorem disconnectInd_records : Within Records disconnectInd :=
  .update fun _ => ⟨rfl, prefix_rfl⟩

theorem passUp_records : Within Records passUp :=
  Within.view.seq <| Within.seq (Within.only
    (.update fun _ => ⟨rfl, prefix_rfl⟩)) <| .pure

theorem readRemainder_records : Within Records readRemainder := by
  refine Within.view.bind fun p => .ite (recv_records.bind fun recvBytes => ?_) passUp_records
  cases recvBytes with
  | none => exact disconnectInd_records.seq .pure
  | some k => exact advance_records.seq passUp_records

/-- A call after the second read. -/
theorem afterSecondRead_records {recvBytes : Option Nat} : Within Records (match recvBytes with
    | none => do
        disconnectInd
        return false
    | some recvBytes => do
        advance recvBytes
        passUp) := by
  cases recvBytes with
  | none => exact disconnectInd_records.seq .pure
  | some k => exact advance_records.seq passUp_records

/-- A call after the first read. -/
theorem afterFirstRead_records {recvBytes : Option Nat} : Within Records (match recvBytes with
    | none => do
        disconnectInd
        return false
    | some recvBytes => do
        advance recvBytes
        let p ← Prog.view Link.lowerPrivate
        if p.readPos < smallestPkt then return true
        else
          let len ← Prog.lift (lengthField p.readBuffer)
          Prog.update fun s => { s with lowerPrivate := { s.lowerPrivate with readLen := len } }
          if len > p.mtu then
            disconnectInd
            return false
          else readRemainder) := by
  cases recvBytes with
  | none => exact disconnectInd_records.seq .pure
  | some k =>
      exact advance_records.seq <| Within.view.seq <| .ite .pure
        (Within.lift.seq <|
          .seq (.update fun _ => ⟨rfl, prefix_rfl⟩) <|
            .ite (disconnectInd_records.seq .pure) readRemainder_records)

theorem call_records : Within Records lowerTransportRecvDataInd :=
  Within.view.seq <|
    .ite (recv_records.seq afterFirstRead_records)
      readRemainder_records

/-- The second read of a packet that claims to be shorter than what is there. -/
theorem readRemainder_negative {ok : Bool}
    (hneg : s.lowerPrivate.readLen < s.lowerPrivate.readPos)
    (h : Ends readRemainder s ok s') :
    ∃ request ∈ s'.requests, ¬ RequestFits s.lowerPrivate.mtu request := by
  replace h := ends_bind_view.1 h
  rw [if_pos (by omega)] at h
  obtain ⟨recvBytes, t, hrecv, hrest⟩ := ends_bind.1 h
  have hpre := (afterSecondRead_records _ _ _ hrest).requests
  rw [recv_requests hrecv] at hpre
  refine ⟨_, hpre.subset (mem_append_right _ mem_cons_self), fun hfits => ?_⟩
  have hnonneg : (0 : Int) ≤ s.lowerPrivate.readLen - s.lowerPrivate.readPos := hfits.1
  omega

/-- If the requests of a call fit, so do its first read and the length field. -/
theorem headerFits_of_requests {ok : Bool} (hsound : Sound s) (hopen : s.isOpen)
    (h : Ends lowerTransportRecvDataInd s ok s')
    (hreq : ∀ request ∈ s'.requests, RequestFits s.lowerPrivate.mtu request) :
    HeaderFits s := by
  obtain ⟨hcap, hlt, hphase⟩ := hsound
  intro hzero
  have hshort : s.lowerPrivate.readPos < smallestPkt := by
    obtain ⟨-, hshort⟩ | ⟨hmin, -⟩ := hphase hopen
    · exact hshort
    · rw [hzero] at hmin
      cases hmin
  replace h := ends_bind_view.1 h
  rw [if_pos hzero] at h
  obtain ⟨recvBytes, t, hrecv, hrest⟩ := ends_bind.1 h
  have hpre := (afterFirstRead_records _ _ _ hrest).requests
  rw [recv_requests hrecv] at hpre
  obtain ⟨hnonneg, hroom⟩ : (0 : Int) ≤ s.lowerPrivate.firstRead - s.lowerPrivate.readPos ∧
      (s.lowerPrivate.readPos : Int) + (s.lowerPrivate.firstRead - s.lowerPrivate.readPos) ≤
        s.lowerPrivate.mtu :=
    hreq _ (hpre.subset (mem_append_right _ mem_cons_self))
  refine ⟨by omega, by omega, fun len hlen => ?_⟩
  by_contra hbad
  obtain ⟨hfit, hbelow⟩ := not_or.1 hbad
  have hcast : (s.lowerPrivate.firstRead : Int) - s.lowerPrivate.readPos =
      ((s.lowerPrivate.firstRead - s.lowerPrivate.readPos : Nat) : Int) := by omega
  rw [hcast] at hrecv
  have hfirst : s.firstBytes = s.reassembled ++
      s.arriving (s.lowerPrivate.firstRead - s.lowerPrivate.readPos) := rfl
  generalize hn : s.lowerPrivate.firstRead - s.lowerPrivate.readPos = n at hrecv hfirst
  have hle := arriving_length_le s n
  have htake := take_advances (s := s) (n := n) hcap (by omega)
  have hbytes : (s.take n).reassembled = s.firstBytes := by
    rw [take_reassembled (by omega), hfirst]
  have hcount : s.firstBytes.length = s.lowerPrivate.readPos + (s.arriving n).length := by
    rw [hfirst, length_append, reassembled_length (by omega)]
  have hlong : ¬ s.firstBytes.length < smallestPkt := by
    intro hlt
    rw [lengthField_short hlt] at hlen
    cases hlen
  obtain ⟨rfl, rfl⟩ := hrecv.unique (recv_ends (by omega) (by omega))
  rw [if_neg (by
    rw [List.isEmpty_iff]
    intro hnil
    rw [hnil, length_nil] at hcount
    omega)] at hrest
  obtain ⟨_, t₁, hadvance, hrest⟩ := ends_bind.1 hrest
  have ht₁ : t₁ = s.take n := (hadvance.unique (advance_ends (show _ < _ from by
    show s.lowerPrivate.readPos + (s.arriving n).length < 65536
    omega))).2
  subst ht₁
  replace hrest := ends_bind_view.1 hrest
  rw [take_readPos, ← hcount, if_neg hlong] at hrest
  have hbuffer : lengthField (s.take n).lowerPrivate.readBuffer = .ok len := by
    rw [← hlen, ← hbytes, Link.reassembled, lengthField_take]
    rw [take_readPos]
    unfold smallestPkt at hlong
    omega
  obtain ⟨len', hlen', hrest⟩ := ends_bind_lift.1 hrest
  obtain rfl : len = len' := Except.ok.inj (hbuffer.symm.trans hlen')
  replace hrest := ends_bind_update.1 hrest
  rw [if_neg (show ¬ (s.take n).lowerPrivate.mtu < len from hfit)] at hrest
  obtain ⟨request, hmem, hnot⟩ := readRemainder_negative
    (show len < s.lowerPrivate.readPos + (s.arriving n).length by omega) hrest
  exact hnot (hreq request hmem)

end Records

/-! ## Runs -/

/-- The event loop finds the socket readable. -/
def Link.Readable (s : Link) : Prop := s.isOpen ∧ s.socket ≠ []

section Runs

variable {s s' : Link}

theorem turns_succ {k : Nat} :
    Ends (turns (k + 1)) s () s' ↔ ∃ t, Ends (turns k) s () t ∧ Ends turn t () s' := by
  unfold turns
  rw [replicate_succ', perform_append]
  refine exists_congr fun t => and_congr_right fun _ => ?_
  constructor
  · intro h
    obtain ⟨_, hturn, -⟩ := ends_bind_return.1 h
    exact hturn
  · intro h
    exact ends_bind.2 ⟨(), s', h, ends_pure.2 ⟨rfl, rfl⟩⟩

/-- What one turn of the event loop does. -/
theorem turn_ends (hsound : Sound s) (hfits : s.Readable → HeaderFits s) :
    ∃ s', Ends turn s () s' ∧ Advances s s' ∧ Sound s' := by
  by_cases hread : s.Readable
  · have hcall := call_ends hsound hread.1 (hfits hread)
    obtain ⟨hadvances, hsound'⟩ := call_sound hsound hread.1 (hfits hread)
    refine ⟨s.call.2, ends_bind_view.2 (ends_only.2 (.inl ⟨hread, ?_⟩)), hadvances, hsound'⟩
    exact ends_bind.2 ⟨_, _, hcall, ends_pure.2 ⟨rfl, rfl⟩⟩
  · exact ⟨s, ends_bind_view.2 (ends_only.2 (.inr ⟨hread, rfl⟩)), Std.Refl.refl _, hsound⟩

theorem turn_fits (hsound : Sound s) (h : Ends turn s () s') (hsafe : Safe s')
    (hread : s.Readable) : HeaderFits s := by
  replace h := ends_bind_view.1 h
  obtain ⟨-, h⟩ | ⟨hne, -⟩ := ends_only.1 h
  · obtain ⟨ok, hcall, -⟩ := ends_bind_return.1 h
    refine headerFits_of_requests hsound hread.1 hcall fun request hmem => ?_
    rw [← (call_records _ _ _ hcall).mtu]
    exact hsafe.requests request hmem
  · exact absurd hread hne

theorem Safe.advances (h : Safe s) (hadvances : Advances s s') (hsound : Sound s') :
    Safe s' := by
  obtain ⟨new, hreq, hfits⟩ := hadvances.requests
  refine ⟨fun request hmem => ?_, fun hopen hne => ?_⟩
  · rw [hadvances.mtu]
    rw [hreq] at hmem
    rcases mem_append.1 hmem with hmem | hmem
    · exact h.requests request hmem
    · exact hfits request hmem
  · obtain ⟨hzero, -⟩ | ⟨-, hpos, hlen⟩ := hsound.phase hopen
    · exact absurd hzero hne
    · exact ⟨Nat.le_of_lt hpos, hlen⟩

theorem start_sound (protocol : Protocol) (maxRxPacketSize : Nat) {readBuffer : List UInt8}
    (socket : List (List UInt8)) (hmtu : readBuffer.length < 65536) :
    Sound (Link.start protocol maxRxPacketSize readBuffer socket) :=
  ⟨rfl, hmtu, fun _ => .inl ⟨rfl, Nat.zero_lt_succ _⟩⟩

theorem start_safe (protocol : Protocol) (maxRxPacketSize : Nat) (readBuffer : List UInt8)
    (socket : List (List UInt8)) :
    Safe (Link.start protocol maxRxPacketSize readBuffer socket) :=
  ⟨nofun, fun _ hne => absurd rfl hne⟩

theorem turns_zero {u : Unit} : Ends (turns 0) s u s' ↔ s' = s := by
  constructor
  · intro h
    exact (ends_pure.1 h).2
  · rintro rfl
    exact ends_pure.2 ⟨rfl, rfl⟩

end Runs

/-- In a run of the event loop every request of `recv` stays inside the reassembly
buffer, and the position between calls inside the packet, if and only if at every call
the first read fits and the length field is not below the number of bytes at hand. -/
theorem requests_fit_iff (protocol : Protocol) (maxRxPacketSize : Nat) (readBuffer : List UInt8)
    (socket : List (List UInt8)) (hmtu : readBuffer.length < 65536) (n : Nat) :
    (∀ k ≤ n, ∃ t, Ends (turns k) (.start protocol maxRxPacketSize readBuffer socket) () t ∧
      Safe t) ↔
    ∀ k < n, ∀ t, Ends (turns k) (.start protocol maxRxPacketSize readBuffer socket) () t →
      t.Readable → HeaderFits t := by
  have hstart := start_sound protocol maxRxPacketSize socket hmtu
  constructor
  · intro hsafe
    have hstep : ∀ k < n, ∀ t,
        Ends (turns k) (.start protocol maxRxPacketSize readBuffer socket) () t → Sound t →
        t.Readable → HeaderFits t := by
      intro k hk t ht hsound hread
      obtain ⟨t', ht', hsafe'⟩ := hsafe (k + 1) hk
      obtain ⟨t₀, ht₀, hturn⟩ := turns_succ.1 ht'
      obtain ⟨-, rfl⟩ := ht₀.unique ht
      exact turn_fits hsound hturn hsafe' hread
    have hsound : ∀ k ≤ n, ∀ t,
        Ends (turns k) (.start protocol maxRxPacketSize readBuffer socket) () t → Sound t := by
      intro k
      induction k with
      | zero =>
          intro _ t ht
          obtain rfl := turns_zero.1 ht
          exact hstart
      | succ k ih =>
          intro hk t ht
          obtain ⟨t₀, ht₀, hturn⟩ := turns_succ.1 ht
          have hsound₀ := ih (Nat.le_of_succ_le hk) t₀ ht₀
          obtain ⟨t', hturn', -, hsound'⟩ := turn_ends hsound₀ (hstep k hk t₀ ht₀ hsound₀)
          obtain ⟨-, rfl⟩ := hturn.unique hturn'
          exact hsound'
    intro k hk t ht
    exact hstep k hk t ht (hsound k (Nat.le_of_lt hk) t ht)
  · intro hfits
    have hsafe : ∀ k ≤ n, ∃ t,
        Ends (turns k) (.start protocol maxRxPacketSize readBuffer socket) () t ∧
          Safe t ∧ Sound t := by
      intro k
      induction k with
      | zero => exact fun _ => ⟨_, turns_zero.2 rfl, start_safe _ _ _ _, hstart⟩
      | succ k ih =>
          intro hk
          obtain ⟨t, ht, hsafe, hsound⟩ := ih (Nat.le_of_succ_le hk)
          obtain ⟨t', hturn, hadvances, hsound'⟩ := turn_ends hsound (hfits k hk t ht)
          exact ⟨t', turns_succ.2 ⟨t, ht, hturn⟩, hsafe.advances hadvances hsound', hsound'⟩
    intro k hk
    obtain ⟨t, ht, hsafe', -⟩ := hsafe k hk
    exact ⟨t, ht, hsafe'⟩

/-- A packet of three bytes, in two segments. -/
theorem requests_fit_iff_short :
    (∀ k ≤ 2, ∃ t, Ends (turns k)
      (.start .rfcomm 0 (replicate 8 0) [[0x80, 0], [3]]) () t ∧ Safe t) ↔
    ∀ k < 2, ∀ t, Ends (turns k)
      (.start .rfcomm 0 (replicate 8 0) [[0x80, 0], [3]]) () t → t.Readable → HeaderFits t :=
  requests_fit_iff .rfcomm 0 (replicate 8 0) [[0x80, 0], [3]] (by decide) 2

/-- A length field of zero makes the second read of the packet one of minus three bytes. -/
theorem length_zero_overruns :
    ¬ ∀ (protocol : Protocol) (maxRxPacketSize : Nat) (readBuffer : List UInt8)
      (socket : List (List UInt8)) (n : Nat), readBuffer.length < 65536 →
      ∃ t, Ends (turns n) (.start protocol maxRxPacketSize readBuffer socket) () t ∧ Safe t := by
  intro hall
  obtain ⟨t, hends, hsafe⟩ := hall .rfcomm 0 (replicate 8 0) [[0x80, 0, 0]] 1 (by decide)
  have hreach : reaches (turns 1) (.start .rfcomm 0 (replicate 8 0) [[0x80, 0, 0]])
      (fun t => t.requests.contains (3, -3)) = true := by
    decide
  obtain ⟨t', hends', hcheck⟩ := reaches_iff.1 hreach
  obtain ⟨-, rfl⟩ := hends.unique hends'
  have hfits := hsafe.requests (3, -3) (contains_iff_mem.1 hcheck)
  exact absurd hfits.1 (by decide)

end Obex.Lower
