import BtPlatform.Gatt.Database.Tree

/-!
# What is rebuilt from the elements

The loops over the elements read a list block by block: a characteristic and the
descriptors after it. A service of an application comes back with the permissions as they
were sent, its handles go to the attributes in the order of the elements, and a database
comes back with every characteristic in its service.
-/

namespace Gatt

open List

/-! ## Blocks of elements -/

/-- A characteristic and its descriptors. -/
structure Block where
  head : GattDbElement
  rest : List GattDbElement
  headType : head.type = .characteristic
  restType : ∀ el ∈ rest, el.type = .descriptor

def Block.elements (b : Block) : List GattDbElement := b.head :: b.rest

section Server

/-- `new GattDescriptor(el->uuid, el->attributeHandle, el->permissions)` -/
def GattDbElement.serverDescriptor (el : GattDbElement) : GattDescriptor :=
  ⟨el.uuid, el.attributeHandle, el.permissions⟩

/-- The characteristic that the server side builds from a block. -/
def Block.serverCharacteristic (b : Block) : GattCharacteristic :=
  { GattCharacteristic.create b.head.uuid b.head.attributeHandle b.head.properties
      b.head.permissions with
    descriptors := b.rest.map GattDbElement.serverDescriptor }

variable {svcEl : GattDbElement} {svc : GattService} {els : List GattDbElement}

theorem addDescriptor_last (svc : GattService) (cs : List GattCharacteristic)
    (c : GattCharacteristic) (d : GattDescriptor) :
    ({ svc with characteristics := cs ++ [c] } : GattService).addDescriptor d =
      some { svc with characteristics := cs ++ [c.addDescriptor d] } := by
  simp [GattService.addDescriptor]

theorem rebuild_descriptors (h : ∀ el ∈ els, el.type = .descriptor)
    (cs : List GattCharacteristic) (c : GattCharacteristic) :
    els.foldlM (rebuildElement svcEl) (some { svc with characteristics := cs ++ [c] }) =
      some (some { svc with characteristics := cs ++
        [{ c with descriptors := c.descriptors ++ els.map GattDbElement.serverDescriptor }] }) := by
  induction els generalizing c with
  | nil => simp
  | cons el els ih =>
      have hel := h el mem_cons_self
      have hrest : ∀ el ∈ els, el.type = .descriptor :=
        fun e he => h e (mem_cons_of_mem _ he)
      rw [foldlM_cons, rebuildElement, hel]
      simp only [Option.bind_some, addDescriptor_last, Option.map_some]
      refine (ih hrest _).trans ?_
      simp [GattCharacteristic.addDescriptor, GattDbElement.serverDescriptor]

theorem rebuild_block (b : Block) (svc : GattService) :
    b.elements.foldlM (rebuildElement svcEl) (some svc) =
      some (some (svc.addCharacteristic b.serverCharacteristic)) := by
  rw [Block.elements, foldlM_cons, rebuildElement, b.headType]
  simp only [Option.map_some]
  refine (rebuild_descriptors b.restType svc.characteristics _).trans ?_
  simp [GattService.addCharacteristic, Block.serverCharacteristic, GattCharacteristic.create]

theorem rebuild_blocks (blocks : List Block) (svc : GattService) :
    (blocks.flatMap Block.elements).foldlM (rebuildElement svcEl) (some svc) =
      some (some { svc with characteristics :=
        svc.characteristics ++ blocks.map Block.serverCharacteristic }) := by
  induction blocks generalizing svc with
  | nil => simp
  | cons b blocks ih =>
      rw [flatMap_cons, foldlM_append, rebuild_block]
      refine (ih _).trans ?_
      simp [GattService.addCharacteristic]

theorem rebuild_included (h : ∀ el ∈ els, el.type = .includedService) (svc : GattService) :
    els.foldlM (rebuildElement svcEl) (some svc) = some (some svc) := by
  induction els with
  | nil => rfl
  | cons el els ih =>
      rw [foldlM_cons, rebuildElement, h el mem_cons_self]
      exact ih fun e he => h e (mem_cons_of_mem _ he)

/-- The whole answer: the service, included services, and blocks. -/
theorem libOnServiceAdded_eq {serviceType : ServiceType} {head : GattDbElement}
    (hhead : head.type = if serviceType = .primary then .primaryService else .secondaryService)
    {included : List GattDbElement} (hincluded : ∀ el ∈ included, el.type = .includedService)
    (blocks : List Block) :
    libOnServiceAdded (head :: (included ++ blocks.flatMap Block.elements)) =
      some { GattService.create head.uuid head.attributeHandle serviceType with
        characteristics := blocks.map Block.serverCharacteristic } := by
  have hfirst : rebuildElement head none head =
      some (some (.create head.uuid head.attributeHandle serviceType)) := by
    rw [rebuildElement, hhead]
    cases serviceType <;> rfl
  simp only [libOnServiceAdded, foldlM_cons, hfirst]
  have hfold : (included ++ blocks.flatMap Block.elements).foldlM (rebuildElement head)
      (some (.create head.uuid head.attributeHandle serviceType)) =
        some (some { GattService.create head.uuid head.attributeHandle serviceType with
          characteristics := blocks.map Block.serverCharacteristic }) := by
    rw [foldlM_append, rebuild_included hincluded]
    exact rebuild_blocks blocks _
  exact congrArg (Option.bind · id) hfold

end Server

/-! ## Attributes and shapes -/

/-- The UUID and the handle of a characteristic and of each of its descriptors. -/
def GattCharacteristic.attributes (c : GattCharacteristic) : List (Uuid × Int) :=
  (c.uuid, c.instanceId) :: c.descriptors.map fun d => (d.uuid, d.instanceId)

/-- The attributes of a service in the order of the elements, without included services. -/
def GattService.attributes (s : GattService) : List (Uuid × Int) :=
  (s.uuid, s.instanceId) :: s.characteristics.flatMap GattCharacteristic.attributes

def GattDescriptor.forgetHandle (d : GattDescriptor) : GattDescriptor := { d with instanceId := 0 }

def GattCharacteristic.forgetHandles (c : GattCharacteristic) : GattCharacteristic :=
  { c with instanceId := 0, descriptors := c.descriptors.map GattDescriptor.forgetHandle }

/-- All that the handles do not change. -/
def GattService.forgetHandles (s : GattService) : GattService :=
  { s with
    instanceId := 0
    characteristics := s.characteristics.map GattCharacteristic.forgetHandles }

def GattCharacteristic.shape (c : GattCharacteristic) : Uuid × Int × Int × List (Uuid × Int) :=
  (c.uuid, c.properties, c.permissions, c.descriptors.map fun d => (d.uuid, d.permissions))

/-- Type, UUIDs, properties and permissions of a service, with the nesting of its
characteristics and descriptors. -/
def GattService.shape (s : GattService) :
    ServiceType × Uuid × List (Uuid × Int × Int × List (Uuid × Int)) :=
  (s.serviceType, s.uuid, s.characteristics.map GattCharacteristic.shape)

/-- A characteristic with its permissions and those of its descriptors as they are sent,
with the size of the key in the upper four bits. -/
def GattCharacteristic.sent (c : GattCharacteristic) : GattCharacteristic :=
  { c with
    properties := c.properties % 2 ^ 8
    permissions := elementPermissions c.keySize c.permissions % 2 ^ 16
    descriptors := c.descriptors.map fun d =>
      { d with permissions := elementPermissions c.keySize d.permissions % 2 ^ 16 } }

def GattService.sent (s : GattService) : GattService :=
  { s with characteristics := s.characteristics.map GattCharacteristic.sent }

def GattDbElement.noHandle (el : GattDbElement) : GattDbElement := { el with attributeHandle := 0 }

/-- The elements of the request in their order, with handles filled in. -/
def Filled (request answer : List GattDbElement) : Prop :=
  answer.map GattDbElement.noHandle = request.map GattDbElement.noHandle

/-- The elements that stand for attributes of the service itself. -/
def GattDbElement.isAttribute (el : GattDbElement) : Bool := el.type != .includedService

def GattDbElement.attribute (el : GattDbElement) : Uuid × Int := (el.uuid, el.attributeHandle)

theorem attributes_blocks (blocks : List Block) :
    (blocks.map Block.serverCharacteristic).flatMap GattCharacteristic.attributes =
      (blocks.flatMap Block.elements).map GattDbElement.attribute := by
  induction blocks with
  | nil => rfl
  | cons b blocks ih =>
      rw [map_cons, flatMap_cons, ih, flatMap_cons, map_append]
      simp [Block.elements, Block.serverCharacteristic, GattCharacteristic.attributes,
        GattCharacteristic.create, GattDbElement.attribute, GattDbElement.serverDescriptor]

theorem blocks_isAttribute (blocks : List Block) :
    ∀ el ∈ blocks.flatMap Block.elements, el.isAttribute = true := by
  intro el hel
  obtain ⟨b, -, hb⟩ := mem_flatMap.1 hel
  obtain rfl | hb := mem_cons.1 hb
  · rw [GattDbElement.isAttribute, b.headType]
    rfl
  · rw [GattDbElement.isAttribute, b.restType el hb]
    rfl

variable {answer : List GattDbElement}

/-- The answer for a characteristic is a block. -/
theorem exists_block {c : GattCharacteristic}
    (h : Filled ((characteristicElements c).map GattDbElement.narrow) answer) :
    ∃ b : Block, answer = b.elements ∧ b.serverCharacteristic.shape = c.sent.shape := by
  rw [Filled, characteristicElements, map_cons, map_cons, map_eq_cons_iff] at h
  obtain ⟨head, rest, rfl, hhead, hrest⟩ := h
  have hheadType := congrArg GattDbElement.type hhead
  have hrestType : rest.map GattDbElement.type = c.descriptors.map fun _ => .descriptor := by
    have := congrArg (map GattDbElement.type) hrest
    rw [map_map, map_map, map_map, map_map] at this
    exact this
  refine ⟨⟨head, rest, hheadType, ?_⟩, rfl, ?_⟩
  · intro el hel
    have hmem : el.type ∈ rest.map GattDbElement.type := mem_map_of_mem hel
    rw [hrestType] at hmem
    obtain ⟨_, -, heq⟩ := mem_map.1 hmem
    exact heq.symm
  · have hdescriptors := congrArg
      (map fun el : GattDbElement => (el.uuid, el.permissions)) hrest
    rw [map_map, map_map, map_map, map_map] at hdescriptors
    have huuid := congrArg GattDbElement.uuid hhead
    have hproperties := congrArg GattDbElement.properties hhead
    have hpermissions := congrArg GattDbElement.permissions hhead
    simp only [GattCharacteristic.shape, Block.serverCharacteristic, GattCharacteristic.create,
      GattCharacteristic.sent, map_map, Prod.mk.injEq]
    exact ⟨huuid, hproperties, hpermissions, hdescriptors⟩

/-- The answer for all characteristics of a service. -/
theorem exists_blocks {cs : List GattCharacteristic}
    (h : Filled ((cs.flatMap characteristicElements).map GattDbElement.narrow) answer) :
    ∃ blocks : List Block, answer = blocks.flatMap Block.elements ∧
      blocks.map (fun b => b.serverCharacteristic.shape) = cs.map fun c => c.sent.shape := by
  induction cs generalizing answer with
  | nil => exact ⟨[], map_eq_nil_iff.1 h, rfl⟩
  | cons c cs ih =>
      rw [Filled, flatMap_cons, map_append, map_append,
        map_eq_append_iff] at h
      obtain ⟨first, others, rfl, hfirst, hothers⟩ := h
      obtain ⟨b, rfl, hb⟩ := exists_block hfirst
      obtain ⟨blocks, rfl, hblocks⟩ := ih hothers
      refine ⟨b :: blocks, rfl, ?_⟩
      rw [map_cons, map_cons, hb, hblocks]

/-- The tree that the library builds from an answer. -/
theorem libOnServiceAdded_filled {checkServiceExists : Uuid → Int → Bool} {svc : GattService}
    (h : Filled (libAddService checkServiceExists svc) answer) :
    ∃ rebuilt, libOnServiceAdded answer = some rebuilt ∧ rebuilt.shape = svc.sent.shape ∧
      rebuilt.attributes = (answer.filter GattDbElement.isAttribute).map
        GattDbElement.attribute := by
  rw [Filled, libAddService, map_cons, map_cons, map_append, map_append,
    map_eq_cons_iff] at h
  obtain ⟨head, rest, rfl, hhead, hrest⟩ := h
  rw [map_eq_append_iff] at hrest
  obtain ⟨included, others, rfl, hincluded, hothers⟩ := hrest
  obtain ⟨blocks, rfl, hblocks⟩ := exists_blocks hothers
  have hheadType : head.type =
      if svc.serviceType = .primary then .primaryService else .secondaryService := by
    have := congrArg GattDbElement.type hhead
    split at this <;> simpa [GattDbElement.noHandle, GattDbElement.narrow,
      GattDbElement.createPrimaryService, GattDbElement.createSecondaryService, *] using this
  have hheadUuid : head.uuid = svc.uuid := by
    have := congrArg GattDbElement.uuid hhead
    split at this <;> exact this
  have hincludedType : ∀ el ∈ included, el.type = .includedService := by
    have htypes := congrArg (map GattDbElement.type) hincluded
    rw [map_map, map_map, map_map] at htypes
    intro el hel
    have hmem : el.type ∈ included.map GattDbElement.type := mem_map_of_mem hel
    have htypes : included.map GattDbElement.type = _ := htypes
    rw [htypes, mem_map] at hmem
    obtain ⟨sentEl, hsent, htype⟩ := hmem
    obtain ⟨ref, -, href⟩ := mem_filterMap.1 hsent
    rw [← htype]
    split at href
    · cases href
      rfl
    · cases href
  refine ⟨_, libOnServiceAdded_eq hheadType hincludedType blocks, ?_, ?_⟩
  · simp only [GattService.shape, GattService.create, GattService.sent, hheadUuid, map_map,
      Prod.mk.injEq, true_and]
    exact hblocks
  · have hhead' : head.isAttribute = true := by
      rw [GattDbElement.isAttribute, hheadType]
      split <;> rfl
    have hincluded' : included.filter GattDbElement.isAttribute = [] := by
      rw [filter_eq_nil_iff]
      intro el hel
      rw [GattDbElement.isAttribute, hincludedType el hel]
      decide
    rw [filter_cons_of_pos hhead', filter_append, hincluded', nil_append,
      filter_eq_self.2 (blocks_isAttribute blocks), map_cons, ← attributes_blocks]
    rfl

/-! ## Handles of the application's service -/

section Assign

theorem assignDescriptors_eq {temps svcs : List GattDescriptor}
    (h : temps.map GattDescriptor.uuid = svcs.map GattDescriptor.uuid) :
    ∃ ds, assignDescriptors temps svcs = some ds ∧
      ds.map GattDescriptor.forgetHandle = temps.map GattDescriptor.forgetHandle ∧
      ds.map (fun d => (d.uuid, d.instanceId)) = svcs.map fun d => (d.uuid, d.instanceId) := by
  induction temps generalizing svcs with
  | nil =>
      rw [map_nil, eq_comm, map_eq_nil_iff] at h
      subst h
      exact ⟨[], rfl, rfl, rfl⟩
  | cons temp temps ih =>
      rw [map_cons, eq_comm, map_eq_cons_iff] at h
      obtain ⟨svc, svcs, rfl, huuid, hrest⟩ := h
      obtain ⟨ds, hds, hforget, hhandles⟩ := ih hrest.symm
      refine ⟨{ temp with instanceId := svc.instanceId } :: ds, ?_, ?_, ?_⟩
      · rw [assignDescriptors, hds]
        rfl
      · rw [map_cons, map_cons, hforget]
        rfl
      · rw [map_cons, map_cons, hhandles, huuid]

/-- The UUIDs of a characteristic and its descriptors. -/
def GattCharacteristic.uuids (c : GattCharacteristic) : Uuid × List Uuid :=
  (c.uuid, c.descriptors.map GattDescriptor.uuid)

theorem assignCharacteristics_eq {temps svcs : List GattCharacteristic}
    (h : temps.map GattCharacteristic.uuids = svcs.map GattCharacteristic.uuids) :
    ∃ cs, assignCharacteristics temps svcs = some cs ∧
      cs.map GattCharacteristic.forgetHandles = temps.map GattCharacteristic.forgetHandles ∧
      cs.flatMap GattCharacteristic.attributes = svcs.flatMap GattCharacteristic.attributes := by
  induction temps generalizing svcs with
  | nil =>
      rw [map_nil, eq_comm, map_eq_nil_iff] at h
      subst h
      exact ⟨[], rfl, rfl, rfl⟩
  | cons temp temps ih =>
      rw [map_cons, eq_comm, map_eq_cons_iff] at h
      obtain ⟨svc, svcs, rfl, huuids, hrest⟩ := h
      obtain ⟨huuid, hdescriptors⟩ := Prod.mk.inj huuids
      obtain ⟨ds, hds, hforgetDs, hhandlesDs⟩ := assignDescriptors_eq hdescriptors.symm
      obtain ⟨cs, hcs, hforget, hhandles⟩ := ih hrest.symm
      refine ⟨{ temp with instanceId := svc.instanceId, descriptors := ds } :: cs, ?_, ?_, ?_⟩
      · simp only [assignCharacteristics, hds, hcs, Option.map_some]
      · rw [map_cons, map_cons, hforget]
        simp only [GattCharacteristic.forgetHandles, hforgetDs]
      · rw [flatMap_cons, flatMap_cons, hhandles]
        simp only [GattCharacteristic.attributes, hhandlesDs, huuid]

theorem uuids_of_shape {c c' : GattCharacteristic} (h : c.shape = c'.shape) :
    c.uuids = c'.uuids := by
  have hdescriptors := congrArg (fun s => s.2.2.2.map Prod.fst) h
  simp only [GattCharacteristic.shape, map_map] at hdescriptors
  exact Prod.ext (congrArg (fun s => s.1) h) hdescriptors

theorem map_uuids_of_shape {cs cs' : List GattCharacteristic}
    (h : cs.map GattCharacteristic.shape = cs'.map GattCharacteristic.shape) :
    cs.map GattCharacteristic.uuids = cs'.map GattCharacteristic.uuids := by
  induction cs generalizing cs' with
  | nil =>
      rw [map_nil, eq_comm, map_eq_nil_iff] at h
      rw [h]
  | cons c cs ih =>
      rw [map_cons, eq_comm, map_eq_cons_iff] at h
      obtain ⟨c', cs', rfl, hc, hcs⟩ := h
      rw [map_cons, map_cons, uuids_of_shape hc, ih hcs.symm]

theorem uuids_sent (c : GattCharacteristic) : c.sent.uuids = c.uuids := by
  simp only [GattCharacteristic.uuids, GattCharacteristic.sent, map_map]
  rfl

/-- The application's service gets the handles of the tree that was built from the answer
to its own request, and nothing else of it changes. -/
theorem assignHandles_eq {svc rebuilt : GattService} (h : rebuilt.shape = svc.sent.shape) :
    ∃ assigned, assignHandles svc rebuilt = some assigned ∧
      assigned.forgetHandles = svc.forgetHandles ∧ assigned.attributes = rebuilt.attributes := by
  obtain ⟨-, hrest⟩ := Prod.mk.inj h
  obtain ⟨huuid, hshapes⟩ := Prod.mk.inj hrest
  have huuids : svc.characteristics.map GattCharacteristic.uuids =
      rebuilt.characteristics.map GattCharacteristic.uuids := by
    rw [map_uuids_of_shape hshapes, GattService.sent, map_map]
    exact map_congr_left fun c _ => (uuids_sent c).symm
  obtain ⟨cs, hcs, hforget, hattributes⟩ := assignCharacteristics_eq huuids
  refine ⟨{ svc with instanceId := rebuilt.instanceId, characteristics := cs }, ?_, ?_, ?_⟩
  · rw [assignHandles, hcs, Option.map_some]
  · simp only [GattService.forgetHandles, hforget]
  · simp only [GattService.attributes, hattributes, huuid]
    rfl

end Assign

/-! ## Discovered services -/

/-- What a device has in one of its services: included services, and characteristics with
their descriptors, in any order. -/
inductive DbItem where
  | included (uuid : Uuid) (id startHandle : Int)
  | characteristic (uuid : Uuid) (id properties : Int) (descriptors : List (Uuid × Int))

structure DbService where
  uuid : Uuid
  id : Int
  serviceType : ServiceType
  items : List DbItem

def DbItem.elements : DbItem → List GattDbElement
  | .included uuid id startHandle =>
      [{ type := .includedService, uuid := uuid, id := id, startHandle := startHandle }]
  | .characteristic uuid id properties descriptors =>
      { type := .characteristic, uuid := uuid, id := id, properties := properties } ::
        descriptors.map fun d => { type := .descriptor, uuid := d.1, id := d.2 }

def DbService.elements (s : DbService) : List GattDbElement :=
  { type := if s.serviceType = .primary then .primaryService else .secondaryService,
    uuid := s.uuid, id := s.id } :: s.items.flatMap DbItem.elements

/-- The characteristic of the client for one of the device. -/
def DbItem.found : DbItem → Option GattCharacteristic
  | .included .. => none
  | .characteristic uuid id properties descriptors =>
      some { GattCharacteristic.create uuid id properties 0 with
        descriptors := descriptors.map fun d => ⟨d.1, d.2, 0⟩ }

/-- The service of the client for one of the device, without its references. -/
def DbService.found (device : List Char) (s : DbService) : GattService :=
  { GattService.create s.uuid s.id s.serviceType with
    device := device, characteristics := s.items.filterMap DbItem.found }

def GattService.withoutReferences (s : GattService) : GattService :=
    { s with includedServices := [] }

section Client

variable {before : List GattService} {svc : GattService} {currChar : Option Nat}

theorem inCurrSrvc_last (before : List GattService) (svc : GattService)
    (currChar : Option Nat) (f : GattService → GattService) :
    (⟨before ++ [svc], currChar⟩ : DbCursor).inCurrSrvc f = some (before ++ [f svc]) := by
  simp [DbCursor.inCurrSrvc]

theorem discover_descriptors (ds : List (Uuid × Int)) (before : List GattService)
    (svc : GattService) (cs : List GattCharacteristic) (c : GattCharacteristic) :
    (ds.map fun d => ({ type := .descriptor, uuid := d.1, id := d.2 } : GattDbElement)).foldlM
        discoverElement ⟨before ++ [{ svc with characteristics := cs ++ [c] }],
          some before.length⟩ =
      some ⟨before ++ [{ svc with characteristics := cs ++
        [{ c with descriptors := c.descriptors ++ ds.map fun d => ⟨d.1, d.2, 0⟩ }] }],
          some before.length⟩ := by
  induction ds generalizing c with
  | nil => simp
  | cons d ds ih =>
      rw [map_cons, foldlM_cons, discoverElement]
      simp only [getElem?_concat_length, addDescriptor_last, Option.map_some,
        set_append_right _ _ (Nat.le_refl _), Nat.sub_self, set_cons_zero]
      refine (ih _).trans ?_
      simp [GattCharacteristic.addDescriptor]

/-- One item of the current service. -/
theorem discover_item (item : DbItem) (before : List GattService) (svc : GattService)
    (currChar : Option Nat) :
    ∃ refs currChar', item.elements.foldlM discoverElement ⟨before ++ [svc], currChar⟩ =
      some ⟨before ++ [{ svc with
        characteristics := svc.characteristics ++ item.found.toList
        includedServices := refs }], currChar'⟩ := by
  cases item with
  | included uuid id startHandle =>
      refine ⟨svc.includedServices ++ [⟨uuid, startHandle⟩], currChar, ?_⟩
      simp [DbItem.elements, discoverElement, inCurrSrvc_last, DbItem.found]
  | characteristic uuid id properties ds =>
      refine ⟨svc.includedServices, some before.length, ?_⟩
      rw [DbItem.elements, foldlM_cons, discoverElement]
      simp only [inCurrSrvc_last, Option.map_some, length_append, length_singleton,
        Nat.add_sub_cancel]
      refine (discover_descriptors ds before svc svc.characteristics _).trans ?_
      simp [DbItem.found, GattCharacteristic.create]

theorem discover_items (items : List DbItem) (before : List GattService) (svc : GattService)
    (currChar : Option Nat) :
    ∃ refs currChar',
      (items.flatMap DbItem.elements).foldlM discoverElement ⟨before ++ [svc], currChar⟩ =
        some ⟨before ++ [{ svc with
          characteristics := svc.characteristics ++ items.filterMap DbItem.found
          includedServices := refs }], currChar'⟩ := by
  induction items generalizing svc currChar with
  | nil => exact ⟨svc.includedServices, currChar, by simp⟩
  | cons item items ih =>
      obtain ⟨refs, curr, hitem⟩ := discover_item item before svc currChar
      obtain ⟨refs', curr', hitems⟩ := ih { svc with
        characteristics := svc.characteristics ++ item.found.toList
        includedServices := refs } curr
      refine ⟨refs', curr', ?_⟩
      rw [flatMap_cons, foldlM_append, hitem]
      refine hitems.trans ?_
      cases hfound : item.found <;> simp [hfound]

/-- One service after those before it. -/
theorem discover_service (s : DbService) (before : List GattService) (currChar : Option Nat) :
    ∃ svc currChar', s.elements.foldlM discoverElement ⟨before, currChar⟩ =
      some ⟨before ++ [svc], currChar'⟩ ∧ svc.withoutReferences = s.found [] := by
  have hfirst : discoverElement ⟨before, currChar⟩
      { type := if s.serviceType = .primary then .primaryService else .secondaryService,
        uuid := s.uuid, id := s.id } =
      some ⟨before ++ [.create s.uuid s.id s.serviceType], currChar⟩ := by
    rw [discoverElement]
    cases s.serviceType <;> rfl
  obtain ⟨refs, currChar', hitems⟩ :=
    discover_items s.items before (.create s.uuid s.id s.serviceType) currChar
  refine ⟨{ GattService.create s.uuid s.id s.serviceType with
    characteristics := s.items.filterMap DbItem.found, includedServices := refs },
    currChar', ?_, ?_⟩
  · rw [DbService.elements, foldlM_cons, hfirst]
    exact hitems
  · simp [GattService.withoutReferences, DbService.found, GattService.create]

theorem discover_services (db : List DbService) (before : List GattService)
    (currChar : Option Nat) :
    ∃ svcs currChar', (db.flatMap DbService.elements).foldlM discoverElement ⟨before, currChar⟩ =
      some ⟨before ++ svcs, currChar'⟩ ∧
        svcs.map GattService.withoutReferences = db.map (DbService.found []) := by
  induction db generalizing before currChar with
  | nil => exact ⟨[], currChar, by simp, rfl⟩
  | cons s db ih =>
      obtain ⟨svc, curr, hsvc, hfound⟩ := discover_service s before currChar
      obtain ⟨svcs, curr', hsvcs, hrest⟩ := ih (before ++ [svc]) curr
      refine ⟨svc :: svcs, curr', ?_, ?_⟩
      · rw [flatMap_cons, foldlM_append, hsvc]
        refine hsvcs.trans ?_
        rw [append_assoc, singleton_append]
      · rw [map_cons, map_cons, hfound, hrest]

theorem onGetGattDb_eq (db : List DbService) :
    ∃ dbOut, onGetGattDb (db.flatMap DbService.elements) = some dbOut ∧
      dbOut.map GattService.withoutReferences = db.map (DbService.found []) := by
  obtain ⟨svcs, currChar, hsvcs, hfound⟩ := discover_services db [] none
  refine ⟨svcs, ?_, hfound⟩
  rw [onGetGattDb, hsvcs]
  rfl

/-- The services that were found, with the address of the device, in front of those of an
earlier search. -/
theorem onSearchComplete_eq {db : List DbService} {dbOut : List GattService}
    (hfound : dbOut.map GattService.withoutReferences = db.map (DbService.found []))
    {mDeviceAddress address : List Char} (haddress : caseInsCompare address mDeviceAddress = true)
    (mServices : List GattService) :
    (onSearchComplete mDeviceAddress mServices address dbOut 0).map GattService.withoutReferences =
      db.map (DbService.found mDeviceAddress) ++ mServices.map GattService.withoutReferences := by
  have hfix : ∀ all : List GattService, all.map (fixReferences all address) = all := by
    intro all
    exact map_id' all
  have hdevice := congrArg
    (map fun s : GattService => { s with device := mDeviceAddress }) hfound
  rw [map_map, map_map] at hdevice
  rw [onSearchComplete, if_pos haddress]
  simp only [if_true, hfix, map_append, map_map]
  exact congrArg (· ++ mServices.map GattService.withoutReferences) hdevice

end Client

/-- A service that is sent to the stack comes back with its type, UUIDs, properties and
nesting and with the permissions as they were sent, and the application's service gets
each handle at the attribute that its element stands for. Of a database the client gets
every service with its own characteristics and these with their own descriptors. -/
theorem services_survive :
    (∀ checkServiceExists svc answer, Filled (libAddService checkServiceExists svc) answer →
      ∃ rebuilt assigned, libOnServiceAdded answer = some rebuilt ∧
        rebuilt.shape = svc.sent.shape ∧ assignHandles svc rebuilt = some assigned ∧
        assigned.forgetHandles = svc.forgetHandles ∧
        assigned.attributes =
          (answer.filter GattDbElement.isAttribute).map GattDbElement.attribute) ∧
    ∀ (db : List DbService) mDeviceAddress mServices address,
      caseInsCompare address mDeviceAddress = true →
      ∃ dbOut, onGetGattDb (db.flatMap DbService.elements) = some dbOut ∧
        (onSearchComplete mDeviceAddress mServices address dbOut 0).map
            GattService.withoutReferences =
          db.map (DbService.found mDeviceAddress) ++
            mServices.map GattService.withoutReferences := by
  constructor
  · intro checkServiceExists svc answer hanswer
    obtain ⟨rebuilt, hrebuilt, hshape, hattributes⟩ := libOnServiceAdded_filled hanswer
    obtain ⟨assigned, hassigned, hforget, hsame⟩ := assignHandles_eq hshape
    exact ⟨rebuilt, assigned, hrebuilt, hshape, hassigned, hforget, hsame.trans hattributes⟩
  · intro db mDeviceAddress mServices address haddress
    obtain ⟨dbOut, hdbOut, hfound⟩ := onGetGattDb_eq db
    exact ⟨dbOut, hdbOut, onSearchComplete_eq hfound haddress mServices⟩

/-- The permissions of a characteristic with a key of sixteen bytes do not come back. -/
theorem permissions_differ :
    let svc : GattService := ⟨[], .empty, 0, .primary, [⟨.empty, 0, 2, 1, 16, []⟩], []⟩
    ∃ rebuilt, libOnServiceAdded (libAddService (fun _ _ => false) svc) = some rebuilt ∧
      rebuilt.shape ≠ svc.shape := by
  intro svc
  refine ⟨⟨[], .empty, 0, .primary, [⟨.empty, 0, 2, 0x9001, 16, []⟩], []⟩, ?_, ?_⟩
  · decide
  · intro hshape
    have hpermissions := congrArg (fun s => s.2.2.map fun c => c.2.2.1) hshape
    exact absurd hpermissions (by decide)

end Gatt
