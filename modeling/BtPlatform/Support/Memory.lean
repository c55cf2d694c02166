/-!
# Outcomes of memory allocation

Whether an allocation succeeds is decided outside the program. A `Memory` lists
the outcomes of the coming requests, for message buffers and for everything else
separately; requests past the end of a list succeed.
-/

namespace Support

/-- The outcomes of coming allocation requests. -/
structure Memory where
  /-- outcomes of `OI_MBUF_Alloc` -/
  mbufs : List Bool
  /-- outcomes of `OI_Malloc` and `OI_Calloc` -/
  blocks : List Bool
  deriving DecidableEq, Repr

namespace Memory

/-- Every request succeeds. -/
def plenty : Memory := ⟨[], []⟩

/-- The outcome of the next mbuf allocation. -/
def takeMbuf (memory : Memory) : Bool × Memory :=
  match memory.mbufs with
  | [] => (true, memory)
  | b :: bs => (b, { memory with mbufs := bs })

/-- The outcome of the next block allocation. -/
def takeBlock (memory : Memory) : Bool × Memory :=
  match memory.blocks with
  | [] => (true, memory)
  | b :: bs => (b, { memory with blocks := bs })

@[simp] theorem takeMbuf_plenty : plenty.takeMbuf = (true, plenty) := rfl
@[simp] theorem takeBlock_plenty : plenty.takeBlock = (true, plenty) := rfl

end Memory

end Support
