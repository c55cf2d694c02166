import BtPlatform.Obex.Lower.Bounds

/-!
# Reassembly

Over RFCOMM the packets passed up are the packets sent, whatever the pieces in which
`recv` yields them. The invariant `Reassembling` splits the stream: what was delivered,
what is in the buffer, and what is still on its way.
-/

namespace Obex.Lower

open Support Format Program Prog List

/-- A packet whose length field is its size, within the size of the buffer. -/
structure WellFormed (mtu : Nat) (packet : List UInt8) : Prop where
  length : lengthField packet = .ok packet.length
  fits : packet.length ≤ mtu

theorem WellFormed.smallest {mtu : Nat} {packet : List UInt8} (h : WellFormed mtu packet) :
    smallestPkt ≤ packet.length := by
  refine Nat.le_of_not_lt fun hlt => ?_
  have hshort := lengthField_short hlt
  rw [h.length] at hshort
  cases hshort

/-! ## The socket -/

section Socket

variable {s : Link} {n : Nat}

/-- A read takes bytes from the front of the stream. -/
theorem arriving_append (s : Link) (n : Nat) :
    s.arriving n ++ (s.remaining n).flatten = s.socket.flatten := by
  unfold Link.arriving Link.remaining
  cases s.socket with
  | nil => simp
  | cons segment rest =>
      dsimp only [headD_cons]
      split
      · next hempty =>
          rw [List.isEmpty_iff] at hempty
          have hsegment := take_append_drop n segment
          rw [hempty, append_nil] at hsegment
          rw [hsegment, flatten_cons]
      · rw [flatten_cons, ← append_assoc, take_append_drop, flatten_cons]

theorem arriving_ne_nil (hne : ∀ segment ∈ s.socket, segment ≠ []) (hsocket : s.socket ≠ [])
    (hn : 0 < n) : s.arriving n ≠ [] := by
  unfold Link.arriving
  cases hs : s.socket with
  | nil => exact absurd hs hsocket
  | cons segment rest =>
      have hsegment := hne segment (by rw [hs]; exact mem_cons_self)
      intro hnil
      rcases take_eq_nil_iff.1 hnil with hzero | hempty
      · omega
      · exact hsegment hempty

theorem remaining_ne_nil (hne : ∀ segment ∈ s.socket, segment ≠ []) :
    ∀ segment ∈ s.remaining n, segment ≠ [] := by
  unfold Link.remaining
  cases hs : s.socket with
  | nil => exact nofun
  | cons segment rest =>
      have hrest : ∀ seg ∈ rest, seg ≠ [] := fun seg hmem =>
        hne seg (by rw [hs]; exact mem_cons_of_mem _ hmem)
      dsimp only
      split
      · exact hrest
      · next hleft =>
          intro seg hmem
          rcases mem_cons.1 hmem with rfl | hmem
          · intro hnil
            exact hleft (isEmpty_iff.2 hnil)
          · exact hrest seg hmem

theorem socket_ne_nil (h : s.socket.flatten ≠ []) : s.socket ≠ [] := by
  intro hnil
  rw [hnil] at h
  exact h rfl

theorem socket_eq_nil (hne : ∀ segment ∈ s.socket, segment ≠ []) (h : s.socket.flatten = []) :
    s.socket = [] := by
  cases hs : s.socket with
  | nil => rfl
  | cons segment rest =>
      rw [hs, flatten_cons, append_eq_nil_iff] at h
      exact absurd h.1 (hne segment (by rw [hs]; exact mem_cons_self))

end Socket

/-! ## The invariant -/

/-- The packets are those delivered, then the one in the buffer and on its way, then those
on their way. -/
structure Reassembling (mtu : Nat) (packets rest : List (List UInt8)) (s : Link) : Prop where
  sound : Sound s
  isOpen : s.isOpen
  protocol : s.lowerPrivate.protocol = .rfcomm
  mtu : s.lowerPrivate.mtu = mtu
  room : s.lowerPrivate.readPos ≤ s.lowerPrivate.readBuffer.length
  segments : ∀ segment ∈ s.socket, segment ≠ []
  packets : s.delivered ++ rest = packets
  stream : s.reassembled ++ s.socket.flatten = rest.flatten
  length : s.lowerPrivate.readLen ≠ 0 → (rest.head?.map length) = some s.lowerPrivate.readLen

section Step

variable {mtu : Nat} {packets tail : List (List UInt8)} {packet : List UInt8} {s : Link} {n : Nat}

/-- A read moves bytes from the socket into the buffer. -/
theorem take_stream (hroom : s.lowerPrivate.readPos + n ≤ s.lowerPrivate.readBuffer.length) :
    (s.take n).reassembled ++ (s.take n).socket.flatten = s.reassembled ++ s.socket.flatten := by
  have hle := arriving_length_le s n
  rw [take_reassembled (by omega), append_assoc]
  show s.reassembled ++ (s.arriving n ++ (s.remaining n).flatten) = _
  rw [arriving_append]

/-- A complete packet is passed up. -/
theorem complete_reassembles (hcap : s.lowerPrivate.readBuffer.length = s.lowerPrivate.mtu)
    (hlt : s.lowerPrivate.mtu < 65536) (hopen : s.isOpen)
    (hprotocol : s.lowerPrivate.protocol = .rfcomm) (hmtu : s.lowerPrivate.mtu = mtu)
    (hsegments : ∀ segment ∈ s.socket, segment ≠ [])
    (hpackets : s.delivered ++ packet :: tail = packets) (hwf : WellFormed mtu packet)
    (hstream : s.reassembled ++ s.socket.flatten = packet ++ tail.flatten)
    (hlen : s.lowerPrivate.readLen = packet.length)
    (hpos : s.lowerPrivate.readPos = packet.length) :
    Reassembling mtu packets tail s.complete := by
  have hfits : s.lowerPrivate.readPos ≤ s.lowerPrivate.readBuffer.length := by
    rw [hcap, hmtu, hpos]
    exact hwf.fits
  obtain ⟨hpacket, hrest⟩ := append_inj hstream (by rw [reassembled_length hfits, hpos])
  refine ⟨⟨hcap, hlt, fun _ => .inl ⟨rfl, Nat.zero_lt_succ _⟩⟩, hopen, hprotocol, hmtu,
    Nat.zero_le _, hsegments, ?_, ?_, fun hne => absurd rfl hne⟩
  · show (s.delivered ++ [s.lowerPrivate.readBuffer.take s.lowerPrivate.readLen]) ++ tail = packets
    rw [hlen, ← hpos, show s.lowerPrivate.readBuffer.take s.lowerPrivate.readPos = packet from
      hpacket, append_assoc, singleton_append]
    exact hpackets
  · show s.lowerPrivate.readBuffer.take 0 ++ s.socket.flatten = tail.flatten
    rw [take_zero, nil_append]
    exact hrest

/-- The second read of a call on the packet at the front of the stream. -/
theorem remainder_reassembles (hcap : s.lowerPrivate.readBuffer.length = s.lowerPrivate.mtu)
    (hlt : s.lowerPrivate.mtu < 65536) (hopen : s.isOpen)
    (hprotocol : s.lowerPrivate.protocol = .rfcomm) (hmtu : s.lowerPrivate.mtu = mtu)
    (hsegments : ∀ segment ∈ s.socket, segment ≠ [])
    (hpackets : s.delivered ++ packet :: tail = packets) (hwf : WellFormed mtu packet)
    (hstream : s.reassembled ++ s.socket.flatten = packet ++ tail.flatten)
    (hlen : s.lowerPrivate.readLen = packet.length)
    (hpos : s.lowerPrivate.readPos ≤ packet.length) :
    ∃ rest, Reassembling mtu packets rest s.remainder.2 ∧
      s.remainder.2.socket.flatten.length ≤ s.socket.flatten.length ∧
      (s.lowerPrivate.readPos < packet.length →
        s.remainder.2.socket.flatten.length < s.socket.flatten.length) := by
  have hfits := hwf.fits
  have hsmallest := hwf.smallest
  unfold Link.remainder
  dsimp only
  rw [hlen]
  generalize hn : packet.length - s.lowerPrivate.readPos = n
  have hroom : s.lowerPrivate.readPos + n ≤ s.lowerPrivate.mtu := by omega
  have htake := take_advances hcap hroom
  have hle := arriving_length_le s n
  have hsplit : s.socket.flatten.length =
    (s.arriving n).length + (s.remaining n).flatten.length := by
    rw [← arriving_append s n, length_append]
  have hstream' : (s.take n).reassembled ++ (s.take n).socket.flatten = packet ++ tail.flatten :=
    (take_stream (by omega)).trans hstream
  split
  · refine ⟨tail, ?_, le_rfl, fun hlt => by omega⟩
    exact complete_reassembles hcap hlt hopen hprotocol hmtu hsegments hpackets hwf hstream hlen
      (by omega)
  split
  · next hzero hempty =>
      -- the rest of the packet is on its way, so something arrives
      have hsocket : s.socket ≠ [] := by
        refine socket_ne_nil fun hnil => ?_
        have hcount := congrArg length hstream
        rw [hnil, append_nil, length_append, reassembled_length (by omega)] at hcount
        omega
      exact absurd (isEmpty_iff.1 hempty)
        (arriving_ne_nil hsegments hsocket (Nat.pos_of_ne_zero hzero))
  next hempty =>
  have hpositive : 0 < (s.arriving n).length :=
    length_pos_iff.2 fun hnil => hempty (isEmpty_iff.2 hnil)
  have hshorter : (s.remaining n).flatten.length < s.socket.flatten.length := by omega
  split
  · next hdone =>
      refine ⟨tail, ?_, Nat.le_of_lt hshorter, fun _ => hshorter⟩
      refine complete_reassembles (htake.capacity.trans hcap) hlt hopen hprotocol hmtu
        (remaining_ne_nil hsegments) hpackets hwf hstream' hlen ?_
      rw [take_readPos]
      omega
  · next hpart =>
      refine ⟨packet :: tail, ⟨⟨htake.capacity.trans hcap, hlt, fun _ => .inr ⟨?_, ?_, ?_⟩⟩, hopen,
        hprotocol, hmtu, ?_, remaining_ne_nil hsegments, hpackets, hstream', fun _ => ?_⟩,
        Nat.le_of_lt hshorter, fun _ => hshorter⟩
      · show smallestPkt ≤ s.lowerPrivate.readLen
        omega
      · show s.lowerPrivate.readPos + (s.arriving n).length < s.lowerPrivate.readLen
        omega
      · show s.lowerPrivate.readLen ≤ s.lowerPrivate.mtu
        omega
      · rw [htake.capacity, take_readPos]
        omega
      · rw [take_readLen, hlen]
        rfl

end Step

section Call

variable {mtu : Nat} {packets rest : List (List UInt8)} {s : Link}

/-- While packets are on their way, the first read of a call sees a part of the next
one. -/
theorem firstBytes_packet {packet : List UInt8} {tail : List (List UInt8)}
    (h : Reassembling mtu packets (packet :: tail) s) (hwf : WellFormed mtu packet)
    (hzero : s.lowerPrivate.readLen = 0) :
    s.lowerPrivate.firstRead = smallestPkt ∧ s.lowerPrivate.readPos < smallestPkt ∧
      s.firstBytes.length ≤ smallestPkt ∧
      (smallestPkt ≤ s.firstBytes.length → lengthField s.firstBytes = .ok packet.length) := by
  have hfirst : s.lowerPrivate.firstRead = smallestPkt := by
    rw [LowerPrivate.firstRead, h.protocol]
  have hshort : s.lowerPrivate.readPos < smallestPkt := by
    rcases h.sound.phase h.isOpen with ⟨-, hshort⟩ | ⟨hmin, -⟩
    · exact hshort
    · rw [hzero] at hmin
      cases hmin
  have hmtu := h.mtu
  have hfits := hwf.fits
  have hsmallest := hwf.smallest
  have hpos := h.room
  have hle := arriving_length_le s (s.lowerPrivate.firstRead - s.lowerPrivate.readPos)
  have hcount : s.firstBytes.length = s.lowerPrivate.readPos +
      (s.arriving (s.lowerPrivate.firstRead - s.lowerPrivate.readPos)).length := by
    rw [Link.firstBytes, length_append, reassembled_length hpos]
  have hbound : s.firstBytes.length ≤ smallestPkt := by omega
  refine ⟨hfirst, hshort, hbound, fun hlong => ?_⟩
  have hstream : s.firstBytes ++
      (s.remaining (s.lowerPrivate.firstRead - s.lowerPrivate.readPos)).flatten =
        packet ++ tail.flatten := by
    rw [Link.firstBytes, append_assoc, arriving_append]
    exact h.stream
  have hpre : s.firstBytes = packet.take smallestPkt := by
    have htake := congrArg (take smallestPkt) hstream
    rw [take_append_of_le_length hlong, take_append_of_le_length hsmallest,
      take_of_length_le hbound] at htake
    exact htake
  rw [hpre, lengthField_take (show 3 ≤ smallestPkt from Nat.le_refl 3)]
  exact hwf.length

/-- A call on a readable socket reads on or completes a packet, and consumes something. -/
theorem call_reassembles (h : Reassembling mtu packets rest s)
    (hwf : ∀ packet ∈ packets, WellFormed mtu packet) (hsocket : s.socket ≠ []) :
    HeaderFits s ∧ ∃ rest', Reassembling mtu packets rest' s.call.2 ∧
      s.call.2.socket.flatten.length < s.socket.flatten.length := by
  have hthree : smallestPkt = 3 := rfl
  obtain ⟨packet, tail, rfl⟩ : ∃ packet tail, rest = packet :: tail := by
    cases rest with
    | cons packet tail => exact ⟨packet, tail, rfl⟩
    | nil =>
        have hflat : s.socket.flatten = [] := (append_eq_nil_iff.1 h.stream).2
        exact absurd (socket_eq_nil h.segments hflat) hsocket
  have hpacket : WellFormed mtu packet :=
    hwf packet (by rw [← h.packets]; exact mem_append_right _ mem_cons_self)
  have hfits := hpacket.fits
  have hsmallest := hpacket.smallest
  have hcap := h.sound.capacity
  have hlt := h.sound.mtu_lt
  have hmtu := h.mtu
  by_cases hzero : s.lowerPrivate.readLen = 0
  · obtain ⟨hfirst, hshort, hbound, hfield⟩ := firstBytes_packet h hpacket hzero
    have hheader : HeaderFits s := by
      refine fun _ => ⟨by omega, by omega, fun len hlen => .inr ?_⟩
      have hlong : smallestPkt ≤ s.firstBytes.length := by
        refine Nat.le_of_not_lt fun hbelow => ?_
        rw [lengthField_short hbelow] at hlen
        cases hlen
      rw [hfield hlong] at hlen
      cases hlen
      omega
    refine ⟨hheader, ?_⟩
    unfold Link.call
    rw [if_pos hzero]
    dsimp only
    have hbytes : s.firstBytes = s.reassembled ++
      s.arriving (s.lowerPrivate.firstRead - s.lowerPrivate.readPos) := rfl
    generalize hn : s.lowerPrivate.firstRead - s.lowerPrivate.readPos = n at hbytes
    have hdata := arriving_ne_nil h.segments hsocket (show 0 < n by omega)
    have hpos := length_pos_iff.2 hdata
    have hle := arriving_length_le s n
    have htake := take_advances (s := s) (n := n) hcap (by omega)
    have hshorter : (s.remaining n).flatten.length < s.socket.flatten.length := by
      rw [← arriving_append s n, length_append]
      omega
    have hreassembled : (s.take n).reassembled = s.firstBytes := by
      rw [take_reassembled (by omega), hbytes]
    have hcount : s.firstBytes.length = s.lowerPrivate.readPos + (s.arriving n).length := by
      rw [hbytes, length_append, reassembled_length (by omega)]
    have hstream : (s.take n).reassembled ++ (s.take n).socket.flatten =
        packet ++ tail.flatten := (take_stream (by omega)).trans h.stream
    rw [if_neg (fun hempty => hdata (isEmpty_iff.1 hempty)), hreassembled]
    by_cases hlong : smallestPkt ≤ s.firstBytes.length
    · rw [hfield hlong]
      dsimp only
      rw [if_neg (by omega)]
      obtain ⟨rest', hrest, hsocket', -⟩ := remainder_reassembles
        (s := (s.take n).withLength packet.length) (htake.capacity.trans hcap) hlt h.isOpen
        h.protocol hmtu (remaining_ne_nil h.segments) h.packets hpacket hstream rfl
        (show s.lowerPrivate.readPos + (s.arriving n).length ≤ packet.length by omega)
      exact ⟨rest', hrest, Nat.lt_of_le_of_lt hsocket' hshorter⟩
    · rw [lengthField_short (Nat.lt_of_not_le hlong)]
      refine ⟨packet :: tail, ⟨⟨htake.capacity.trans hcap, hlt, fun _ => .inl ⟨hzero, ?_⟩⟩,
        h.isOpen, h.protocol, hmtu, ?_, remaining_ne_nil h.segments, h.packets, hstream,
        fun hne => absurd hzero hne⟩, hshorter⟩
      · rw [take_readPos]
        omega
      · rw [htake.capacity, take_readPos]
        omega
  · refine ⟨fun hz => absurd hz hzero, ?_⟩
    have hlen : s.lowerPrivate.readLen = packet.length :=
      (Option.some.inj (h.length hzero)).symm
    have hpos : s.lowerPrivate.readPos < packet.length := by
      rcases h.sound.phase h.isOpen with ⟨hz, -⟩ | ⟨-, hpos, -⟩
      · exact absurd hz hzero
      · rw [← hlen]
        exact hpos
    obtain ⟨rest', hrest, -, hshorter⟩ := remainder_reassembles hcap hlt h.isOpen h.protocol hmtu
      h.segments h.packets hpacket h.stream hlen (Nat.le_of_lt hpos)
    unfold Link.call
    rw [if_neg hzero]
    exact ⟨rest', hrest, hshorter hpos⟩

end Call

/-! ## Runs -/

section Runs

variable {mtu : Nat} {packets rest : List (List UInt8)} {s : Link}

/-- A turn keeps the invariant, and consumes something unless the socket is drained. -/
theorem turn_reassembles (h : Reassembling mtu packets rest s)
    (hwf : ∀ packet ∈ packets, WellFormed mtu packet) :
    ∃ s' rest', Ends turn s () s' ∧ Reassembling mtu packets rest' s' ∧
      (s'.socket.flatten.length < s.socket.flatten.length ∨ s.socket = [] ∧ s'.socket = []) := by
  by_cases hsocket : s.socket = []
  · refine ⟨s, rest, ends_bind_view.2 (ends_only.2 (.inr ⟨?_, rfl⟩)), h, .inr ⟨hsocket, hsocket⟩⟩
    exact fun hread => hread.2 hsocket
  · obtain ⟨hheader, rest', hrest, hshorter⟩ := call_reassembles h hwf hsocket
    refine ⟨s.call.2, rest', ends_bind_view.2 (ends_only.2 (.inl ⟨⟨h.isOpen, hsocket⟩, ?_⟩)), hrest,
      .inl hshorter⟩
    exact ends_bind.2 ⟨_, _, call_ends h.sound h.isOpen hheader, ends_pure.2 ⟨rfl, rfl⟩⟩

/-- When the socket is drained, all packets have been delivered. -/
theorem Reassembling.drained (h : Reassembling mtu packets rest s)
    (hwf : ∀ packet ∈ packets, WellFormed mtu packet) (hsocket : s.socket = []) :
    s.delivered = packets ∧ s.lowerPrivate.readPos = 0 ∧ s.lowerPrivate.readLen = 0 := by
  have hstream := h.stream
  rw [hsocket, flatten_nil, append_nil] at hstream
  cases rest with
  | nil =>
      have hlen : s.lowerPrivate.readLen = 0 := by
        by_contra hne
        exact absurd (h.length hne) nofun
      have hpackets := h.packets
      rw [append_nil] at hpackets
      refine ⟨hpackets, ?_, hlen⟩
      rw [← reassembled_length h.room, hstream]
      rfl
  | cons packet tail =>
      -- the packet in the buffer would be complete
      have hpacket : WellFormed mtu packet :=
        hwf packet (by rw [← h.packets]; exact mem_append_right _ mem_cons_self)
      have hsmallest := hpacket.smallest
      have hfits := hpacket.fits
      have hmtu := h.mtu
      have hpos := h.room
      have hcount := congrArg List.length hstream
      rw [reassembled_length hpos, flatten_cons, length_append] at hcount
      rcases h.sound.phase h.isOpen with ⟨-, hshort⟩ | ⟨hmin, hlt, -⟩
      · omega
      · have hlen : packet.length = s.lowerPrivate.readLen :=
          Option.some.inj (h.length (by unfold smallestPkt at hmin; omega))
        omega

theorem start_reassembles (maxRxPacketSize : Nat) {readBuffer : List UInt8}
    {packets segments : List (List UInt8)} (hmtu : readBuffer.length < 65536)
    (hne : ∀ segment ∈ segments, segment ≠ []) (hflat : segments.flatten = packets.flatten) :
    Reassembling readBuffer.length packets packets
      (.start .rfcomm maxRxPacketSize readBuffer segments) where
  sound := start_sound _ _ _ hmtu
  isOpen := rfl
  protocol := rfl
  mtu := rfl
  room := Nat.zero_le _
  segments := hne
  packets := rfl
  stream := hflat
  length hne := absurd rfl hne

/-- Any number of turns; bytes are left only where there were more than turns. -/
theorem turns_reassemble {n : Nat} (h : Reassembling mtu packets rest s)
    (hwf : ∀ packet ∈ packets, WellFormed mtu packet) :
    ∃ s' rest', Ends (turns n) s () s' ∧ Reassembling mtu packets rest' s' ∧
      (s'.socket = [] ∨ s'.socket.flatten.length + n ≤ s.socket.flatten.length) := by
  induction n with
  | zero => exact ⟨s, rest, turns_zero.2 rfl, h, .inr le_rfl⟩
  | succ n ih =>
      obtain ⟨t, rest₁, hends, hinv, hleft⟩ := ih
      obtain ⟨s', rest', hturn, hinv', hless | ⟨-, hdrained⟩⟩ := turn_reassembles hinv hwf
      · refine ⟨s', rest', turns_succ.2 ⟨t, hends, hturn⟩, hinv', .inr ?_⟩
        obtain hdrained | hleft := hleft
        · rw [hdrained] at hless
          cases hless
        · omega
      · exact ⟨s', rest', turns_succ.2 ⟨t, hends, hturn⟩, hinv', .inl hdrained⟩

end Runs

/-- Over RFCOMM, however the stream of well-formed packets is cut into pieces, a run of
the event loop passes up the packets in order and nothing else; after as many turns as
there are bytes it has passed up all of them, and no part of a packet is left over. -/
theorem packets_reassembled (maxRxPacketSize : Nat) (readBuffer : List UInt8)
    (packets segments : List (List UInt8)) (hmtu : readBuffer.length < 65536)
    (hwf : ∀ packet ∈ packets, WellFormed readBuffer.length packet)
    (hne : ∀ segment ∈ segments, segment ≠ []) (hflat : segments.flatten = packets.flatten)
    (n : Nat) :
    ∃ s, Ends (turns n) (.start .rfcomm maxRxPacketSize readBuffer segments) () s ∧
      s.isOpen ∧ s.delivered <+: packets ∧
      (packets.flatten.length ≤ n → s.socket = [] ∧ s.delivered = packets ∧
        s.lowerPrivate.readPos = 0 ∧ s.lowerPrivate.readLen = 0) := by
  obtain ⟨s, rest, hends, hinv, hleft⟩ := turns_reassemble (n := n)
    (start_reassembles maxRxPacketSize hmtu hne hflat) hwf
  change _ ∨ _ ≤ segments.flatten.length at hleft
  rw [hflat] at hleft
  refine ⟨s, hends, hinv.isOpen, ⟨rest, hinv.packets⟩, fun hn => ?_⟩
  have hdrained : s.socket = [] := by
    rcases hleft with hdrained | hleft
    · exact hdrained
    · exact socket_eq_nil hinv.segments (length_eq_zero_iff.1 (by omega))
  exact ⟨hdrained, hinv.drained hwf hdrained⟩

/-- Two packets, the second one longer than its header, in four pieces. -/
theorem packets_reassembled_two :
    ∃ s, Ends (turns 7) (.start .rfcomm 0 (replicate 8 0) [[0x80], [0, 3, 0x82], [0], [4, 9]])
        () s ∧ s.isOpen ∧ s.delivered <+: [[0x80, 0, 3], [0x82, 0, 4, 9]] ∧
      ([[0x80, 0, 3], [0x82, 0, 4, 9]].flatten.length ≤ 7 → s.socket = [] ∧
        s.delivered = [[0x80, 0, 3], [0x82, 0, 4, 9]] ∧
        s.lowerPrivate.readPos = 0 ∧ s.lowerPrivate.readLen = 0) := by
  refine packets_reassembled 0 (replicate 8 0) [[0x80, 0, 3], [0x82, 0, 4, 9]]
    [[0x80], [0, 3, 0x82], [0], [4, 9]] (by decide) ?_ (by decide) rfl 7
  intro packet hmem
  rcases mem_pair.1 hmem with rfl | rfl
  · exact ⟨rfl, by decide⟩
  · exact ⟨rfl, by decide⟩

end Obex.Lower
