import GameCapturer.Framework.Address
import GameCapturer.Foundation.StructStore

namespace GameCapturer

open Foundation Foundation.StructLoad
open Sockaddr

/-!
# Handing address lists to callers

`Framework::QueryAddressList` first counts the addresses, then either reports
the size it needs or copies the addresses behind an array of pointers into the
caller's buffer.  The buffer is part of the process memory, so that a write
outside it would show.
-/

namespace Framework

/-- `INT_MAX` -/
def intMax : Nat := 0x7FFFFFFF

/-- `ND_QUERY_EXCLUDE_NDv1_ADDRESSES` -/
def ndQueryExcludeNdV1Addresses : UInt32 := 0x2

/-- `ND_QUERY_EXCLUDE_NDv2_ADDRESSES` -/
def ndQueryExcludeNdV2Addresses : UInt32 := 0x4

/-- `FIELD_OFFSET(SOCKET_ADDRESS_LIST, Address[index])` on x64. -/
def addressOffset (index : Nat) : Nat :=
  8 + 16 * index

/-- `Framework::CountAddresses` -/
def countAddresses : List Address → Nat × Nat → Nat × Nat
  | [], counts => counts
  | address :: rest, (nV4, nV6) =>
      if nV4 + nV6 < intMax then
        if address.af = afInet then
          countAddresses rest (nV4 + 1, nV6)
        else if address.af = afInet6 then
          countAddresses rest (nV4, nV6 + 1)
        else
          countAddresses rest (nV4, nV6)
      else
        (nV4, nV6)

/-- The locals of `CopyAddressList`, with the memory it writes to. -/
structure CopyState where
  memory : Bytes
  nAddress : Nat
  pBuf : Nat
  cbBuf : Nat

/-- The loop of `CopyAddressList`. -/
def copyAddresses
    (pAddressList : Nat) :
    List Address → CopyState → CopyState
  | [], state => state
  | address :: rest, state =>
      if state.nAddress < intMax then
        let copied := address.copySockaddr state.cbBuf
        if copied.length = 0 then
          copyAddresses pAddressList rest state
        else
          let entry := pAddressList + addressOffset state.nAddress
          let memory := store state.memory state.pBuf copied
          let memory := store memory (entry + 8) (encode 4 copied.length)
          let memory := store memory entry (encode 8 state.pBuf)
          copyAddresses pAddressList rest {
            memory
            nAddress := state.nAddress + 1
            pBuf := state.pBuf + copied.length
            cbBuf := state.cbBuf - copied.length
          }
      else
        state

/-- `Framework::CopyAddressList`; `iAddressCount` is at offset 0. -/
def copyAddressList
    (list : List Address)
    (pAddressList : Nat)
    (memory : Bytes)
    (pBuf cbBuf : Nat) : CopyState :=
  let state :=
    copyAddresses pAddressList list {
      memory
      nAddress := decode memory pAddressList 4
      pBuf
      cbBuf
    }
  { state with
    memory :=
      store state.memory pAddressList (encode 4 state.nAddress) }

/-- What `QueryAddressList` returns and leaves behind. -/
structure QueryResult where
  status : HResult
  cbAddressList : Nat
  memory : Bytes

/-- The size of a list of so many IPv4 and IPv6 addresses. -/
def requiredSize (nV4 nV6 : Nat) : Nat :=
  24 - 16 + 16 * (nV4 + nV6) + sizeIn * nV4 + sizeIn6 * nV6

/-- The counting half of `QueryAddressList`: `nV4` and `nV6`. -/
def queryCounts
    (ndAddrList ndV1AddrList : List Address)
    (flags : UInt32) : Nat × Nat :=
  let counts := (0, 0)
  let counts :=
    if flags &&& ndQueryExcludeNdV2Addresses = 0 then
      countAddresses ndAddrList counts
    else
      counts
  if flags &&& ndQueryExcludeNdV1Addresses = 0 then
    countAddresses ndV1AddrList counts
  else
    counts

/-- The copying half of `QueryAddressList`, for `count` addresses. -/
def fillAddressList
    (ndAddrList ndV1AddrList : List Address)
    (flags : UInt32)
    (pAddressList count capacity : Nat)
    (memory : Bytes) : CopyState :=
  let state : CopyState := {
    memory := store memory pAddressList (encode 4 0)
    nAddress := 0
    pBuf := pAddressList + addressOffset count
    cbBuf := capacity - addressOffset count
  }
  let state :=
    if flags &&& ndQueryExcludeNdV2Addresses = 0 then
      copyAddressList ndAddrList pAddressList state.memory
        state.pBuf state.cbBuf
    else
      state
  if flags &&& ndQueryExcludeNdV1Addresses = 0 then
    copyAddressList ndV1AddrList pAddressList state.memory
      state.pBuf state.cbBuf
  else
    state

/--
`Framework::QueryAddressList` after its `ProcessUpdates`.  `pAddressList` is
`none` for a null pointer, and `capacity` is `*pcbAddressList` on entry.
-/
def queryAddressList
    (ndAddrList ndV1AddrList : List Address)
    (flags : UInt32)
    (pAddressList : Option Nat)
    (capacity : Nat)
    (memory : Bytes) : QueryResult :=
  let (nV4, nV6) := queryCounts ndAddrList ndV1AddrList flags
  if nV4 = 0 ∧ nV6 = 0 then
    { status := ndSuccess, cbAddressList := 0, memory }
  else
    let cbRequired := requiredSize nV4 nV6
    match pAddressList with
    | none =>
        { status := ndBufferOverflow
          cbAddressList := cbRequired
          memory }
    | some pAddressList =>
        if cbRequired > capacity then
          { status := ndBufferOverflow
            cbAddressList := cbRequired
            memory }
        else
          let state :=
            fillAddressList ndAddrList ndV1AddrList flags pAddressList
              (nV4 + nV6) capacity memory
          { status := ndSuccess
            cbAddressList := capacity
            memory := state.memory }

/-!
### What is counted is what is copied
-/

/-- The bytes that the structs of some addresses take. -/
def payload (list : List Address) : Nat :=
  (list.map Address.sockaddrSize).sum

/-- The bytes that a list of addresses takes in the caller's buffer. -/
def listSize (list : List Address) : Nat :=
  addressOffset list.length + payload list

/-- The addresses of a list that are counted and copied, up to a limit. -/
def counted (list : List Address) (limit : Nat) : List Address :=
  (list.filter fun address => address.Known).take limit

@[simp] theorem payload_nil : payload [] = 0 :=
  rfl

@[simp] theorem payload_cons (address : Address) (list : List Address) :
    payload (address :: list) = address.sockaddrSize + payload list := by
  simp [payload]

@[simp] theorem payload_append (first second : List Address) :
    payload (first ++ second) = payload first + payload second := by
  simp [payload]

@[simp] theorem counted_nil (limit : Nat) : counted [] limit = [] := by
  simp [counted]

@[simp] theorem counted_zero (list : List Address) :
    counted list 0 = [] := by
  simp [counted]

/-- A known address counts against the limit. -/
theorem counted_cons_of_known
    {address : Address}
    (known : address.Known)
    (rest : List Address)
    (limit : Nat) :
    counted (address :: rest) (limit + 1) =
      address :: counted rest limit := by
  simp [counted, known]

/-- An unknown address is passed over. -/
theorem counted_cons_of_unknown
    {address : Address}
    (unknown : ¬ address.Known)
    (rest : List Address)
    (limit : Nat) :
    counted (address :: rest) limit = counted rest limit := by
  simp [counted, unknown]

/-- Counting one list after another counts their concatenation. -/
theorem counted_append
    (first second : List Address)
    (limit : Nat) :
    counted first limit ++
        counted second (limit - (counted first limit).length) =
      counted (first ++ second) limit := by
  simp only [counted, List.filter_append, List.take_append,
    List.length_take]
  congr 2
  omega

/-- Counting finds the number of addresses and the bytes of their structs. -/
theorem countAddresses_spec
    (list : List Address)
    (nV4 nV6 : Nat) :
    let counts := countAddresses list (nV4, nV6)
    let found := counted list (intMax - (nV4 + nV6))
    counts.1 + counts.2 = nV4 + nV6 + found.length ∧
      sizeIn * counts.1 + sizeIn6 * counts.2 =
        sizeIn * nV4 + sizeIn6 * nV6 + payload found := by
  induction list generalizing nV4 nV6 with
  | nil =>
      simp [countAddresses]
  | cons address rest inductionHypothesis =>
      by_cases more : nV4 + nV6 < intMax
      · obtain ⟨limit, room⟩ : ∃ limit,
            intMax - (nV4 + nV6) = limit + 1 :=
          ⟨intMax - (nV4 + nV6) - 1, by omega⟩
        by_cases inet : address.af = afInet
        · have later := inductionHypothesis (nV4 + 1) nV6
          rw [show intMax - (nV4 + 1 + nV6) = limit by omega] at later
          simp only [countAddresses, more, ↓reduceIte, inet, room,
            counted_cons_of_known (.inl inet), List.length_cons,
            payload_cons, address.sockaddrSize_of_inet inet]
          constructor
          · omega
          · have bytes := later.2
            unfold sizeIn sizeIn6 at bytes ⊢
            omega
        · by_cases inet6 : address.af = afInet6
          · have later := inductionHypothesis nV4 (nV6 + 1)
            rw [show intMax - (nV4 + (nV6 + 1)) = limit by omega]
              at later
            simp only [countAddresses, more, ↓reduceIte, inet6,
              afInet6_ne_afInet, room,
              counted_cons_of_known (.inr inet6),
              List.length_cons, payload_cons,
              address.sockaddrSize_of_inet6 inet6]
            constructor
            · omega
            · have bytes := later.2
              unfold sizeIn sizeIn6 at bytes ⊢
              omega
          · have unknown : ¬ address.Known := by
              simp [Address.Known, inet, inet6]
            simpa [countAddresses, more, inet, inet6,
              counted_cons_of_unknown unknown] using
              inductionHypothesis nV4 nV6
      · have full : intMax - (nV4 + nV6) = 0 := by omega
        simp [countAddresses, more, full]

/-!
### What the copying leaves in the buffer
-/

/-- Where the struct of an address goes: behind the array and the others. -/
def structOffset (count : Nat) (before : List Address) : Nat :=
  addressOffset count + payload before

/--
The first entries of the array point at structs one behind the other, which are
those of the given addresses.
-/
def Placed
    (memory : Bytes)
    (pAddressList count : Nat)
    (placed : List Address) : Prop :=
  ∀ before address after,
    placed = before ++ address :: after →
    let entry := pAddressList + addressOffset before.length
    let position := pAddressList + structOffset count before
    decode memory entry 8 = position ∧
      decode memory (entry + 8) 4 = address.sockaddrSize ∧
      slice memory position address.sockaddrSize = address.sockaddr

section Copying

variable
  {memory after : Bytes}
  {pAddressList count : Nat}
  {placed : List Address}

/-- Nothing is placed in an empty list. -/
theorem placed_nil : Placed memory pAddressList count [] := by
  intro before address rest shape
  simp at shape

/-- Writing outside the entries and the structs keeps what is placed. -/
theorem Placed.congr
    (holds : Placed memory pAddressList count placed)
    (few : placed.length ≤ count)
    (same :
      ∀ index,
        pAddressList + addressOffset 0 ≤ index →
        index < pAddressList + addressOffset placed.length ∨
          pAddressList + addressOffset count ≤ index ∧
            index < pAddressList + structOffset count placed →
        after index = memory index) :
    Placed after pAddressList count placed := by
  intro before address rest shape
  obtain ⟨pointer, length, bytes⟩ := holds before address rest shape
  have earlier : before.length + 1 ≤ placed.length := by
    simp [shape]
  have inside :
      payload before + address.sockaddrSize ≤ payload placed := by
    simp [shape]
  unfold structOffset addressOffset at *
  refine ⟨?_, ?_, ?_⟩
  · rw [← pointer]
    apply decode_congr
    intro index lower upper
    exact same index (by omega) (by omega)
  · rw [← length]
    apply decode_congr
    intro index lower upper
    exact same index (by omega) (by omega)
  · rw [← bytes]
    apply slice_congr
    intro index lower upper
    exact same index (by omega) (by omega)

/-- The three stores of one round of the copying loop. -/
def copyOne
    (memory : Bytes)
    (entry position : Nat)
    (copied : List UInt8) : Bytes :=
  store
    (store (store memory position copied) (entry + 8)
      (encode 4 copied.length))
    entry (encode 8 position)

/-- A round writes only the entry and the struct. -/
theorem copyOne_outside
    {entry position index : Nat}
    {copied : List UInt8}
    (notEntry : index < entry ∨ entry + 16 ≤ index)
    (notStruct : index < position ∨ position + copied.length ≤ index) :
    copyOne memory entry position copied index = memory index := by
  unfold copyOne
  rw [store_outside (by simp; omega), store_outside (by simp; omega),
    store_outside notStruct]

/-- A round writes a pointer, a length and the struct they describe. -/
theorem copyOne_entry
    {entry position : Nat}
    {copied : List UInt8}
    (behind : entry + 16 ≤ position)
    (addressable : position < 2 ^ 64)
    (short : copied.length ≤ sizeIn6) :
    let written := copyOne memory entry position copied
    decode written entry 8 = position ∧
      decode written (entry + 8) 4 = copied.length ∧
      slice written position copied.length = copied := by
  unfold sizeIn6 at short
  unfold copyOne
  refine ⟨decode_store (by omega), ?_, ?_⟩
  · rw [decode_store_apart (by simp), decode_store (by omega)]
  · rw [slice_store_apart (by simp; omega),
      slice_store_apart (by simp; omega), slice_store]

/-- A round places one more address. -/
theorem Placed.append
    (holds : Placed memory pAddressList count placed)
    (few : placed.length < count)
    (address : Address)
    (addressable :
      pAddressList + structOffset count placed < 2 ^ 64) :
    Placed
      (copyOne memory (pAddressList + addressOffset placed.length)
        (pAddressList + structOffset count placed) address.sockaddr)
      pAddressList count (placed ++ [address]) := by
  have behind :
      pAddressList + addressOffset placed.length + 16 ≤
        pAddressList + structOffset count placed := by
    unfold structOffset addressOffset
    omega
  have kept :
      Placed
        (copyOne memory (pAddressList + addressOffset placed.length)
          (pAddressList + structOffset count placed)
          address.sockaddr)
        pAddressList count placed := by
    refine holds.congr (Nat.le_of_lt few) fun index _ place => ?_
    have array :
        addressOffset placed.length + 16 ≤ addressOffset count := by
      unfold addressOffset
      omega
    exact copyOne_outside (by omega) (by omega)
  intro before other rest shape
  rcases List.eq_nil_or_concat rest with rfl | ⟨more, last, rfl⟩
  · obtain ⟨rfl, same⟩ := List.append_inj' shape rfl
    cases same
    have short : address.sockaddr.length ≤ sizeIn6 := by
      rw [address.length_sockaddr]
      exact address.sockaddrSize_le
    simpa using copyOne_entry behind addressable short
  · have earlier : placed = before ++ other :: more := by
      rw [List.concat_eq_append, ← List.cons_append,
        ← List.append_assoc] at shape
      exact (List.append_inj' shape rfl).1
    exact kept before other more earlier

/-- The locals of the copying loop after some addresses are placed. -/
structure Copied
    (state : CopyState)
    (pAddressList count : Nat)
    (placed : List Address) : Prop where
  nAddress : state.nAddress = placed.length
  pBuf : state.pBuf = pAddressList + structOffset count placed
  placed : Placed state.memory pAddressList count placed

/-- The addresses still to be copied have their place in the buffer. -/
structure Room
    (state : CopyState)
    (count : Nat)
    (placed found : List Address) : Prop where
  entries : placed.length + found.length ≤ count
  fits : payload found ≤ state.cbBuf
  addressable : state.pBuf + payload found ≤ 2 ^ 64

/-- The locals after a round that copies an address whole. -/
def CopyState.append
    (state : CopyState)
    (pAddressList : Nat)
    (address : Address) : CopyState where
  memory :=
    copyOne state.memory
      (pAddressList + addressOffset state.nAddress)
      state.pBuf address.sockaddr
  nAddress := state.nAddress + 1
  pBuf := state.pBuf + address.sockaddrSize
  cbBuf := state.cbBuf - address.sockaddrSize

/-- One known address is copied and leaves room for the others. -/
theorem Copied.append
    {state : CopyState}
    {found : List Address}
    {address : Address}
    (copied : Copied state pAddressList count placed)
    (room : Room state count placed (address :: found))
    (known : address.Known) :
    Copied (state.append pAddressList address) pAddressList count
        (placed ++ [address]) ∧
      Room (state.append pAddressList address) count
        (placed ++ [address]) found := by
  obtain ⟨entries, fits, addressable⟩ := room
  have position := copied.pBuf
  have positive := address.sockaddrSize_pos_iff.mpr known
  simp only [List.length_cons, payload_cons] at entries fits
  simp only [payload_cons] at addressable
  unfold CopyState.append
  refine ⟨⟨?_, ?_, ?_⟩, ⟨?_, ?_, ?_⟩⟩
  · simp [copied.nAddress]
  · simp only [position, structOffset, payload_append, payload_cons,
      payload_nil]
    omega
  · rw [copied.nAddress, position]
    exact copied.placed.append (by omega) address (by omega)
  · simp only [List.length_append, List.length_singleton]
    omega
  · dsimp only
    omega
  · dsimp only
    omega

/-- The round of a known address, when there is room for it. -/
theorem copyAddresses_cons_of_known
    {rest found : List Address}
    {state : CopyState}
    {address : Address}
    (running : state.nAddress < intMax)
    (room : Room state count placed (address :: found))
    (known : address.Known) :
    copyAddresses pAddressList (address :: rest) state =
      copyAddresses pAddressList rest
        (state.append pAddressList address) := by
  have fits := room.fits
  rw [payload_cons] at fits
  have whole :
      address.copySockaddr state.cbBuf = address.sockaddr := by
    rw [address.copySockaddr_eq, if_neg (by omega)]
  have positive := address.sockaddrSize_pos_iff.mpr known
  simp [copyAddresses, CopyState.append, running, whole, copyOne,
    Nat.pos_iff_ne_zero.mp positive]

/-- The round of an address of an unknown family changes nothing. -/
theorem copyAddresses_cons_of_unknown
    {rest : List Address}
    {state : CopyState}
    {address : Address}
    (running : state.nAddress < intMax)
    (unknown : ¬ address.Known) :
    copyAddresses pAddressList (address :: rest) state =
      copyAddresses pAddressList rest state := by
  have size : address.sockaddrSize = 0 := by
    by_contra nonzero
    exact unknown
      (address.sockaddrSize_pos_iff.mp (Nat.pos_of_ne_zero nonzero))
  have none : address.copySockaddr state.cbBuf = [] := by
    rw [address.copySockaddr_eq, size, if_neg (Nat.not_lt_zero _),
      Address.sockaddr, size, List.take_zero]
  simp [copyAddresses, running, none]

/-- A copied address is written behind the ones already placed. -/
theorem CopyState.append_outside
    {state : CopyState}
    {found : List Address}
    {address : Address}
    {index : Nat}
    (copied : Copied state pAddressList count placed)
    (room : Room state count placed (address :: found))
    (place :
      index < pAddressList + addressOffset 0 ∨
        pAddressList + structOffset count (placed ++ address :: found) ≤
          index) :
    (state.append pAddressList address).memory index =
      state.memory index := by
  have entries := room.entries
  unfold CopyState.append
  rw [copied.nAddress, copied.pBuf]
  unfold structOffset addressOffset at *
  simp only [payload_append, payload_cons, List.length_cons]
    at place entries
  apply copyOne_outside
  · omega
  · rw [address.length_sockaddr]
    omega

/-- The copying loop places exactly the addresses that were counted. -/
theorem copyAddresses_spec
    {list found : List Address}
    {state : CopyState}
    (copied : Copied state pAddressList count placed)
    (known : counted list (intMax - placed.length) = found)
    (room : Room state count placed found) :
    let final := copyAddresses pAddressList list state
    Copied final pAddressList count (placed ++ found) ∧
      final.cbBuf = state.cbBuf - payload found ∧
      ∀ index,
        index < pAddressList + addressOffset 0 ∨
            pAddressList + structOffset count (placed ++ found) ≤
              index →
        final.memory index = state.memory index := by
  induction list generalizing state placed found with
  | nil =>
      rw [counted_nil] at known
      subst known
      simpa [copyAddresses] using copied
  | cons address rest inductionHypothesis =>
      by_cases more : placed.length < intMax
      · obtain ⟨limit, left⟩ : ∃ limit,
            intMax - placed.length = limit + 1 :=
          ⟨intMax - placed.length - 1, by omega⟩
        have running : state.nAddress < intMax := by
          rw [copied.nAddress]
          exact more
        by_cases stored : address.Known
        · rw [left, counted_cons_of_known stored] at known
          subst known
          have later :
              counted rest (intMax - (placed ++ [address]).length) =
                counted rest limit := by
            rw [List.length_append, List.length_singleton,
              ← Nat.sub_sub, left, Nat.add_sub_cancel]
          obtain ⟨next, nextRoom⟩ := copied.append room stored
          obtain ⟨final, remaining, outside⟩ :=
            inductionHypothesis next later nextRoom
          rw [← List.append_cons] at final outside
          rw [copyAddresses_cons_of_known running room stored]
          refine ⟨final, ?_, fun index place => ?_⟩
          · rw [remaining, payload_cons, ← Nat.sub_sub]
            rfl
          · rw [outside index place,
              CopyState.append_outside copied room place]
        · rw [counted_cons_of_unknown stored] at known
          rw [copyAddresses_cons_of_unknown running stored]
          exact inductionHypothesis copied known room
      · have full : intMax - placed.length = 0 := by omega
        have ended : ¬ state.nAddress < intMax := by
          rw [copied.nAddress]
          exact more
        rw [full, counted_zero] at known
        subst known
        simpa [copyAddresses, ended] using copied

/-- The locals between two calls of `CopyAddressList`. -/
structure Headed
    (state : CopyState)
    (pAddressList count : Nat)
    (placed : List Address) : Prop where
  copied : Copied state pAddressList count placed
  header : decode state.memory pAddressList 4 = placed.length

/-- Only the caller's list was written to. -/
def Untouched
    (memory after : Bytes)
    (pAddressList count : Nat)
    (placed : List Address) : Prop :=
  ∀ index,
    index < pAddressList ∨
        pAddressList + structOffset count placed ≤ index →
    after index = memory index

/-- `CopyAddressList` goes on behind what is placed and updates the count. -/
theorem copyAddressList_spec
    {list found : List Address}
    {state : CopyState}
    (headed : Headed state pAddressList count placed)
    (known : counted list (intMax - placed.length) = found)
    (room : Room state count placed found)
    (few : count ≤ intMax) :
    let final :=
      copyAddressList list pAddressList state.memory state.pBuf
        state.cbBuf
    Headed final pAddressList count (placed ++ found) ∧
      final.cbBuf = state.cbBuf - payload found ∧
      Untouched state.memory final.memory pAddressList count
        (placed ++ found) := by
  have same :
      ({
        memory := state.memory
        nAddress := decode state.memory pAddressList 4
        pBuf := state.pBuf
        cbBuf := state.cbBuf
      } : CopyState) = state := by
    rw [headed.header, ← headed.copied.nAddress]
  have total : (placed ++ found).length ≤ count := by
    rw [List.length_append]
    exact room.entries
  obtain ⟨copied, remaining, outside⟩ :=
    copyAddresses_spec headed.copied known room
  dsimp only
  unfold copyAddressList
  dsimp only
  rw [same]
  generalize copyAddresses pAddressList list state = final at *
  refine ⟨⟨⟨copied.nAddress, copied.pBuf, ?_⟩, ?_⟩, remaining, ?_⟩
  · refine copied.placed.congr total fun index lower _ => ?_
    apply store_outside
    right
    rw [length_encode]
    unfold addressOffset at lower
    omega
  · unfold intMax at few
    rw [copied.nAddress]
    exact decode_store (by omega)
  · intro index place
    have header : index < pAddressList ∨ pAddressList + 8 ≤ index := by
      unfold structOffset addressOffset at place
      omega
    rw [store_outside (by rw [length_encode]; omega)]
    apply outside
    unfold structOffset addressOffset at *
    omega

/-- A list that the flags exclude is passed over. -/
theorem copyIncluded_spec
    (included : Prop)
    [Decidable included]
    {list found : List Address}
    {state : CopyState}
    (headed : Headed state pAddressList count placed)
    (known :
      counted (if included then list else [])
          (intMax - placed.length) =
        found)
    (room : Room state count placed found)
    (few : count ≤ intMax) :
    let final :=
      if included then
        copyAddressList list pAddressList state.memory state.pBuf
          state.cbBuf
      else
        state
    Headed final pAddressList count (placed ++ found) ∧
      final.cbBuf = state.cbBuf - payload found ∧
      Untouched state.memory final.memory pAddressList count
        (placed ++ found) := by
  by_cases taken : included
  · simp only [taken, ↓reduceIte] at known ⊢
    exact copyAddressList_spec headed known room few
  · simp only [taken, ↓reduceIte, counted_nil] at known
    subst known
    simp only [taken, ↓reduceIte, List.append_nil, payload_nil,
      Nat.sub_zero, true_and]
    exact ⟨headed, fun _ _ => rfl⟩

end Copying

/-!
### The answer to a query
-/

/-- The addresses that a query with some flags is about. -/
def listed
    (ndAddrList ndV1AddrList : List Address)
    (flags : UInt32) : List Address :=
  counted
    ((if flags &&& ndQueryExcludeNdV2Addresses = 0 then
        ndAddrList
      else
        []) ++
      if flags &&& ndQueryExcludeNdV1Addresses = 0 then
        ndV1AddrList
      else
        [])
    intMax

/-- A caller's buffer that holds a list and was written nowhere else. -/
structure Delivered
    (memory after : Bytes)
    (pAddressList : Nat)
    (list : List Address) : Prop where
  count : decode after pAddressList 4 = list.length
  placed : Placed after pAddressList list.length list
  untouched : Untouched memory after pAddressList list.length list

section Query

variable
  (ndAddrList ndV1AddrList : List Address)
  (flags : UInt32)
  (capacity : Nat)
  (memory : Bytes)

/-- The counts of a query are those of the list it is about. -/
theorem queryCounts_spec :
    let counts := queryCounts ndAddrList ndV1AddrList flags
    let list := listed ndAddrList ndV1AddrList flags
    counts.1 + counts.2 = list.length ∧
      requiredSize counts.1 counts.2 = listSize list := by
  have passed (included : Prop) [Decidable included]
      (list : List Address) (counts : Nat × Nat) :
      (if included then countAddresses list counts else counts) =
        countAddresses (if included then list else []) counts := by
    split <;> simp [countAddresses]
  simp only [queryCounts, passed, listed]
  generalize (if flags &&& ndQueryExcludeNdV2Addresses = 0 then
    ndAddrList else []) = first
  generalize (if flags &&& ndQueryExcludeNdV1Addresses = 0 then
    ndV1AddrList else []) = second
  obtain ⟨firstCount, firstBytes⟩ := countAddresses_spec first 0 0
  generalize countAddresses first (0, 0) = counts at *
  obtain ⟨nV4, nV6⟩ := counts
  obtain ⟨secondCount, secondBytes⟩ :=
    countAddresses_spec second nV4 nV6
  have together := counted_append first second intMax
  simp only [Nat.add_zero, Nat.sub_zero, Nat.zero_add, Nat.mul_zero]
    at firstCount firstBytes
  rw [firstCount] at secondCount secondBytes
  rw [← together]
  unfold requiredSize listSize addressOffset
  simp only [List.length_append, payload_append]
  omega

/-- The copying half places the whole list when the buffer is large enough. -/
theorem fillAddressList_spec
    {pAddressList : Nat}
    (enough :
      listSize (listed ndAddrList ndV1AddrList flags) ≤ capacity)
    (addressable :
      pAddressList + listSize (listed ndAddrList ndV1AddrList flags) ≤
        2 ^ 64) :
    let list := listed ndAddrList ndV1AddrList flags
    Delivered memory
      (fillAddressList ndAddrList ndV1AddrList flags pAddressList
        list.length capacity memory).memory
      pAddressList list := by
  have few :
      (listed ndAddrList ndV1AddrList flags).length ≤ intMax := by
    simp [listed, counted]
  have together :
      counted (if flags &&& ndQueryExcludeNdV2Addresses = 0 then
            ndAddrList else []) intMax ++
          counted (if flags &&& ndQueryExcludeNdV1Addresses = 0 then
              ndV1AddrList else [])
            (intMax - (counted
              (if flags &&& ndQueryExcludeNdV2Addresses = 0 then
                ndAddrList else []) intMax).length) =
        listed ndAddrList ndV1AddrList flags :=
    counted_append _ _ intMax
  dsimp only
  unfold fillAddressList
  dsimp only
  generalize listed ndAddrList ndV1AddrList flags = list at *
  generalize firstFound :
    counted (if flags &&& ndQueryExcludeNdV2Addresses = 0 then
      ndAddrList else []) intMax = first at together
  generalize secondFound :
    counted (if flags &&& ndQueryExcludeNdV1Addresses = 0 then
      ndV1AddrList else []) (intMax - first.length) = second at together
  subst together
  simp only [listSize, List.length_append, payload_append] at *
  have started :
      Headed {
        memory := store memory pAddressList (encode 4 0)
        nAddress := 0
        pBuf := pAddressList + addressOffset (first.length + second.length)
        cbBuf := capacity - addressOffset (first.length + second.length)
      } pAddressList (first.length + second.length) [] :=
    ⟨⟨rfl, rfl, placed_nil⟩, decode_store (by omega)⟩
  have firstRoom :
      Room {
        memory := store memory pAddressList (encode 4 0)
        nAddress := 0
        pBuf := pAddressList + addressOffset (first.length + second.length)
        cbBuf := capacity - addressOffset (first.length + second.length)
      } (first.length + second.length) [] first :=
    ⟨by simp, by dsimp only; omega, by dsimp only; omega⟩
  obtain ⟨middle, remaining, untouched⟩ :=
    copyIncluded_spec _ started firstFound firstRoom few
  dsimp only at middle remaining untouched
  generalize (if flags &&& ndQueryExcludeNdV2Addresses = 0 then
    copyAddressList ndAddrList _ _ _ _ else _) = state at *
  have position := middle.copied.pBuf
  rw [List.nil_append] at middle untouched position
  have secondRoom :
      Room state (first.length + second.length) first second := by
    unfold structOffset at position
    exact ⟨Nat.le_refl _, by omega, by omega⟩
  obtain ⟨final, -, untouchedAfter⟩ :=
    copyIncluded_spec _ middle secondFound secondRoom few
  have total :
      (first ++ second).length = first.length + second.length :=
    List.length_append
  refine ⟨?_, ?_, ?_⟩
  · rw [final.header, total]
  · rw [total]
    exact final.copied.placed
  · rw [total]
    intro index place
    have header :
        index < pAddressList ∨ pAddressList + 4 ≤ index := by
      unfold structOffset addressOffset at place
      omega
    have earlier :
        index < pAddressList ∨
          pAddressList +
              structOffset (first.length + second.length) first ≤
            index := by
      unfold structOffset at place ⊢
      rw [payload_append] at place
      omega
    rw [untouchedAfter index place, untouched index earlier,
      store_outside (by rw [length_encode]; exact header)]

/-- What a query answers, for the list its flags select. -/
structure QueryAnswered
    (list : List Address)
    (pAddressList : Option Nat)
    (capacity : Nat)
    (memory : Bytes)
    (result : QueryResult) : Prop where
  nothing :
    list = [] →
      result = { status := ndSuccess, cbAddressList := 0, memory }
  size :
    list ≠ [] →
      (∀ address ∈ pAddressList, capacity < listSize list) →
      result = {
        status := ndBufferOverflow
        cbAddressList := listSize list
        memory
      }
  delivered :
    ∀ address ∈ pAddressList,
      list ≠ [] →
        listSize list ≤ capacity →
        address + listSize list ≤ 2 ^ 64 →
        result.status = ndSuccess ∧
          result.cbAddressList = capacity ∧
          Delivered memory result.memory address list

/--
A query with any flags, buffer and capacity reports the exact size it needs, or
delivers every selected address and writes nowhere outside the list.
-/
theorem queryAddressList_spec (pAddressList : Option Nat) :
    QueryAnswered (listed ndAddrList ndV1AddrList flags) pAddressList
      capacity memory
      (queryAddressList ndAddrList ndV1AddrList flags pAddressList
        capacity memory) := by
  obtain ⟨total, bytes⟩ :=
    queryCounts_spec ndAddrList ndV1AddrList flags
  have filled (address : Nat) :=
    @fillAddressList_spec ndAddrList ndV1AddrList flags capacity
      memory address
  unfold queryAddressList
  generalize queryCounts ndAddrList ndV1AddrList flags = counts at *
  obtain ⟨nV4, nV6⟩ := counts
  generalize listed ndAddrList ndV1AddrList flags = list at *
  dsimp only at total bytes filled ⊢
  have none : nV4 = 0 ∧ nV6 = 0 ↔ list = [] := by
    rw [← List.length_eq_zero_iff, ← total]
    omega
  simp only [none, bytes, total]
  refine ⟨?_, ?_, ?_⟩
  · intro empty
    simp [empty]
  · intro nonempty small
    cases pAddressList with
    | none =>
        simp [nonempty]
    | some address =>
        have short := small address rfl
        simp [nonempty, short]
  · rintro address ⟨⟩ nonempty enough addressable
    have fits : ¬ listSize list > capacity := by omega
    simp only [nonempty, ↓reduceIte, fits, true_and]
    exact filled address enough addressable

end Query

end Framework

end GameCapturer
