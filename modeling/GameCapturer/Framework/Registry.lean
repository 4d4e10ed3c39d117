import GameCapturer.Framework.Provider
import GameCapturer.Foundation.KeyedList

namespace GameCapturer.Framework

open Foundation
open Sockaddr

/-!
# The provider and address lists of the framework

`ndfrmwrk.cpp` keeps the providers of the Winsock catalog and two lists of the
addresses they serve.  Everything below runs under the lock of the framework.
A fault, such as following a dangling or a null pointer, is `none`.
-/

/-- The fields of `WSAPROTOCOL_INFOW` that the framework looks at. -/
structure ProtocolInfo where
  serviceFlags1 : UInt32
  providerFlags : UInt32
  version : Int32
  addressFamily : Int32
  socketType : Int32
  protocol : Int32
  protocolMaxOffset : Int32
  providerId : Guid
  deriving Repr, DecidableEq

namespace ProtocolInfo

/-- `ND_SERVICE_FLAGS1` -/
def ndServiceFlags1 : UInt32 := 0x2 ||| 0x4 ||| 0x8 ||| 0x80

/-- `PFL_HIDDEN` -/
def pflHidden : UInt32 := 0x4

/-- `ND_PROVIDER_FLAGS` -/
def ndProviderFlags : UInt32 := pflHidden ||| 0x10

/-- The filter of `ProcessProviderChange` on one catalog entry. -/
def isNetworkDirect (info : ProtocolInfo) : Bool :=
  if info.serviceFlags1 &&& ndServiceFlags1 ≠ ndServiceFlags1 then
    false
  else if info.version = ndVersion1 ∧
      info.providerFlags &&& pflHidden ≠ pflHidden then
    false
  else if info.version = ndVersion2 ∧
      info.providerFlags &&& ndProviderFlags ≠ ndProviderFlags then
    false
  else if info.version ≠ ndVersion1 ∧ info.version ≠ ndVersion2 then
    false
  else if info.addressFamily ≠ 2 ∧ info.addressFamily ≠ 23 then
    false
  else if info.socketType ≠ -1 then
    false
  else if info.protocol ≠ 0 then
    false
  else if info.protocolMaxOffset ≠ 0 then
    false
  else
    true

end ProtocolInfo

/--
The lists of `Framework`.  `nextObject` is above the address of every object
allocated so far; `opened` and `released` record adapters by their provider.
-/
structure Registry where
  providerList : List Provider
  ndAddrList : List Address
  ndV1AddrList : List Address
  nextObject : Nat
  opened : List Nat
  released : List Nat
  deriving Repr, DecidableEq

namespace Registry

/-- The lists of a constructed framework. -/
def initial : Registry where
  providerList := []
  ndAddrList := []
  ndV1AddrList := []
  nextObject := 0
  opened := []
  released := []

/-!
### `ProcessAddressChange`
-/

/-- The block behind `pAddrList`. -/
structure QueryBuffer where
  size : Nat
  contents : SocketAddressList
  deriving Repr, DecidableEq

/--
One call of `QueryAddressList`: the size of the block that is passed, the length
it is told and, after the call, the status and the length it left.  The second
call of a round is a retry.
-/
structure QueryRecord where
  size : Option Nat
  told : UInt32
  retry : Bool
  status : HResult
  left : UInt32
  deriving Repr, DecidableEq

/--
The locals of `ProcessAddressChange`, with the lists it fills and a record of
the calls it has made.
-/
structure AddressScan where
  pAddrList : Option QueryBuffer
  len : UInt32
  ndAddrList : List Address
  ndV1AddrList : List Address
  calls : List QueryRecord
  deriving Repr, DecidableEq

/-- The answers while the addresses of one provider are queried. -/
structure ScanAnswers where
  first : Provider.QueryCall
  allocated : Bool
  uninitialised : SocketAddressList
  second : Provider.QueryCall
  heap : Nat → SockaddrInet

/-- `pProv->QueryAddressList(pAddrList, &len)` -/
def askProvider?
    (provider : Provider)
    (retry : Bool)
    (call : Provider.QueryCall)
    (scan : AddressScan) :
    Option (HResult × Provider × AddressScan) := do
  let (status, asked, provider) ← provider.queryAddressList? call
  let len := if asked then call.length else scan.len
  return (status, provider, {
    scan with
    pAddrList :=
      if asked then
        scan.pAddrList.map fun buffer =>
          { buffer with contents := call.contents }
      else
        scan.pAddrList
    len
    calls :=
      scan.calls ++ [{
        size := scan.pAddrList.map QueryBuffer.size
        told := scan.len
        retry
        status
        left := len
      }]
  })

/-- The end of a round: the addresses of a successful query are taken over. -/
def storeAddresses?
    (status : HResult)
    (provider : Provider)
    (heap : Nat → SockaddrInet)
    (scan : AddressScan) : Option AddressScan :=
  if Failed status then
    some scan
  else do
    -- `*pAddrList` is formed even if the pointer is null.
    let buffer ← scan.pAddrList
    if provider.version = ndVersion1 then
      let ndV1AddrList ←
        buildAddressList? provider.object buffer.contents
          heap scan.ndV1AddrList
      return { scan with ndV1AddrList }
    else
      let ndAddrList ←
        buildAddressList? provider.object buffer.contents
          heap scan.ndAddrList
      return { scan with ndAddrList }

/-- `HeapAlloc(ghHeap, 0, len)` when it succeeds. -/
def AddressScan.allocate
    (scan : AddressScan)
    (uninitialised : SocketAddressList) : AddressScan :=
  { scan with
    pAddrList := some {
      size := scan.len.toNat
      contents := uninitialised
    } }

/-- A round of the loop of `ProcessAddressChange` for one provider. -/
def scanProvider?
    (provider : Provider)
    (answers : ScanAnswers)
    (scan : AddressScan) : Option (Provider × AddressScan) :=
  if !provider.active then
    some (provider, scan)
  else do
    let (status, provider, scan) ←
      askProvider? provider false answers.first scan
    if status = ndBufferOverflow then
      if !answers.allocated then
        return (provider, { scan with pAddrList := none })
      else
        let (status, provider, scan) ←
          askProvider? provider true answers.second
            (scan.allocate answers.uninitialised)
        return (provider,
          ← storeAddresses? status provider answers.heap scan)
    else
      return (provider,
        ← storeAddresses? status provider answers.heap scan)

/-- The loop of `ProcessAddressChange`; answers are per round. -/
def scanProviders?
    (answers : Nat → ScanAnswers) :
    List Provider → Nat → AddressScan →
      Option (List Provider × AddressScan)
  | [], _, scan => some ([], scan)
  | provider :: rest, round, scan => do
      let (provider, scan) ←
        scanProvider? provider (answers round) scan
      let (rest, scan) ← scanProviders? answers rest (round + 1) scan
      return (provider :: rest, scan)

/-- The locals when the loop starts: both lists have been emptied. -/
def AddressScan.start : AddressScan where
  pAddrList := none
  len := 0
  ndAddrList := []
  ndV1AddrList := []
  calls := []

/-- `Framework::ProcessAddressChange` -/
def processAddressChange?
    (registry : Registry)
    (answers : Nat → ScanAnswers) : Option Registry := do
  let (providerList, scan) ←
    scanProviders? answers registry.providerList 0 .start
  return {
    registry with
    providerList
    ndAddrList := scan.ndAddrList
    ndV1AddrList := scan.ndV1AddrList
  }

/-!
### `ProcessProviderChange` and `FlushProviders`
-/

/-- What the two calls of `WSCEnumProtocols` and the allocation answer. -/
structure CatalogAnswers where
  sizeReported : Bool
  allocated : Bool
  protocols : Option (List ProtocolInfo)
  init : Nat → Provider.InitAnswers

/-- `MarkActive` on the first provider with a GUID. -/
def markActive (guid : Guid) : List Provider → List Provider
  | [] => []
  | provider :: rest =>
      if provider.guid = guid then
        { provider with active := true } :: rest
      else
        provider :: markActive guid rest

/-- The loop of `ProcessProviderChange` over the catalog. -/
def addProviders
    (init : Nat → Provider.InitAnswers) :
    List ProtocolInfo → Nat → Registry → Registry
  | [], _, registry => registry
  | info :: rest, index, registry =>
      if !info.isNetworkDirect then
        addProviders init rest (index + 1) registry
      else if info.providerId ∈ registry.providerList.map Provider.guid then
        addProviders init rest (index + 1) {
          registry with
          providerList :=
            markActive info.providerId registry.providerList
        }
      else
        -- `new` allocates the object even if `Init` then fails.
        let object := registry.nextObject
        let registry := { registry with nextObject := object + 1 }
        if Failed (Provider.init (init index)) then
          addProviders init rest (index + 1) registry
        else
          let version :=
            if info.version = ndVersion1 then ndVersion1 else ndVersion2
          addProviders init rest (index + 1) {
            registry with
            providerList :=
              registry.providerList ++
                [.construct object info.providerId version]
          }

/-- `MarkInactive` on every provider. -/
def markInactive (registry : Registry) : Registry :=
  { registry with
    providerList :=
      registry.providerList.map fun provider =>
        { provider with active := false } }

/-- `Framework::ProcessProviderChange` -/
def processProviderChange?
    (registry : Registry)
    (catalog : CatalogAnswers)
    (answers : Nat → ScanAnswers) : Option Registry :=
  if !catalog.sizeReported then
    some registry
  else if !catalog.allocated then
    some registry
  else
    match catalog.protocols with
    | none => some registry
    | some protocols =>
        (addProviders catalog.init protocols 0
          registry.markInactive).processAddressChange? answers

/-- The loop of `FlushProviders`: every provider is tried, active or not. -/
def flush?
    (canUnloadNow : Provider.CanUnloadNow) :
    List Provider → Option (List Provider)
  | [] => some []
  | provider :: rest => do
      let (unloaded, provider) ← provider.tryUnload? canUnloadNow
      let rest ← flush? canUnloadNow rest
      if unloaded ∧ provider.active = false then
        return rest
      else
        return provider :: rest

/-- `Framework::FlushProviders` -/
def flushProviders?
    (registry : Registry)
    (canUnloadNow : Provider.CanUnloadNow) : Option Registry := do
  let providerList ← flush? canUnloadNow registry.providerList
  return { registry with providerList }

/-!
### Looking addresses up
-/

/-- Whether an address of a list matches, searching from the front. -/
def anyMatches?
    (sockaddr : List UInt8) : List Address → Option Bool
  | [] => some false
  | address :: rest => do
      if ← address.matches? sockaddr then
        return true
      else
        anyMatches? sockaddr rest

/-- `Framework::CheckAddress` after its `ProcessUpdates`. -/
def checkAddress?
    (registry : Registry)
    (sockaddr : List UInt8) : Option HResult := do
  let status ← validate? sockaddr
  if Failed status then
    return status
  else if ← anyMatches? sockaddr registry.ndAddrList then
    return ndSuccess
  else if ← anyMatches? sockaddr registry.ndV1AddrList then
    return ndSuccess
  else
    return ndInvalidAddress

/-- `WSAEFAULT` -/
def wsaEFault : UInt32 := 10014

/-- `WSAEINVAL` -/
def wsaEInval : UInt32 := 10022

/-- `WSAENETDOWN` -/
def wsaENetDown : UInt32 := 10050

/-- `WSAENETUNREACH` -/
def wsaENetUnreach : UInt32 := 10051

/--
What `WSAIoctl` answers to a routing query: the length goes to the low half of
the caller's `SIZE_T`, and the address is what the caller's buffer then holds.
-/
structure RoutingAnswer where
  socketError : Bool
  lastError : UInt32
  length : UInt32
  pLocalAddress : List UInt8
  deriving Repr, DecidableEq

/-- Store through `reinterpret_cast<DWORD*>`: the high half stays. -/
def storeLow (value : UInt64) (dword : UInt32) : UInt64 :=
  value / 0x100000000 * 0x100000000 + dword.toUInt64

/-- `*pcbLocalAddress` capped to `UINT_MAX`. -/
def capLength (cbLocalAddress : UInt64) : UInt64 :=
  if cbLocalAddress > 0xFFFFFFFF then
    0xFFFFFFFF
  else
    cbLocalAddress

/--
`Framework::ResolveAddress` after its `ProcessUpdates`: the status and the
caller's length.
-/
def resolveAddress?
    (registry : Registry)
    (cbLocalAddress : UInt64)
    (answer : RoutingAnswer) : Option (HResult × UInt64) :=
  let len := capLength cbLocalAddress
  let cbLocalAddress := storeLow len answer.length
  if answer.socketError then
    if answer.lastError = wsaEFault ∧ len < cbLocalAddress then
      some (ndBufferOverflow, cbLocalAddress)
    else if answer.lastError = wsaEInval then
      some (ndInvalidAddress, cbLocalAddress)
    else if answer.lastError = wsaENetUnreach ∨
        answer.lastError = wsaENetDown then
      some (ndNetworkUnreachable, cbLocalAddress)
    else
      some (ndUnsuccessful, cbLocalAddress)
  else do
    if ← anyMatches? answer.pLocalAddress registry.ndAddrList then
      return (ndSuccess, cbLocalAddress)
    else if ← anyMatches? answer.pLocalAddress registry.ndV1AddrList then
      return (ndSuccess, cbLocalAddress)
    else
      return (ndInvalidAddress, cbLocalAddress)

/-- Update the provider object at an address. -/
def replaceProvider
    (provider : Provider)
    (providerList : List Provider) : List Provider :=
  KeyedList.replace Provider.object provider providerList

/--
The loop of `OpenAdapter`: the status so far, the providers, and the providers
tried with their results.
-/
def openFrom?
    (iid : Iid)
    (sockaddr : List UInt8)
    (answers : Nat → Provider.OpenAnswers) :
    List Address → Nat → HResult → List Provider →
      Option (HResult × List Provider × List (Nat × HResult))
  | [], _, status, providers => some (status, providers, [])
  | address :: rest, attempt, status, providers => do
      if ← address.matches? sockaddr then
        let provider ←
          providers.find? fun provider =>
            provider.object = address.provider
        let (status, provider) ←
          provider.openAdapter? iid (answers attempt)
        let providers := replaceProvider provider providers
        if Failed status then
          let (last, providers, tried) ←
            openFrom? iid sockaddr answers rest (attempt + 1) status
              providers
          return (last, providers, (address.provider, status) :: tried)
        else
          return (status, providers, [(address.provider, status)])
      else
        openFrom? iid sockaddr answers rest attempt status providers

/-- The list that `OpenAdapter` searches for an interface. -/
def searched (registry : Registry) (iid : Iid) : List Address :=
  if iid = .indAdapter then
    registry.ndV1AddrList
  else
    registry.ndAddrList

/-- `Framework::OpenAdapter` after its `ProcessUpdates`. -/
def openAdapter?
    (registry : Registry)
    (iid : Iid)
    (sockaddr : List UInt8)
    (answers : Nat → Provider.OpenAnswers) :
    Option (HResult × Registry × List (Nat × HResult)) := do
  let status ← validate? sockaddr
  if Failed status then
    return (status, registry, [])
  else
    let (status, providerList, tried) ←
      openFrom? iid sockaddr answers (registry.searched iid) 0
        ndInvalidAddress registry.providerList
    return (status, {
      registry with
      providerList
      opened :=
        registry.opened ++
          (tried.filter fun attempt => ¬ Failed attempt.2).map Prod.fst
    }, tried)

/-- A caller releases an adapter that a provider has opened. -/
def releaseAdapter?
    (registry : Registry)
    (object : Nat) : Option Registry := do
  let provider ←
    registry.providerList.find? fun provider =>
      provider.object = object
  if provider.adapters = 0 then
    none
  else
    return {
      registry with
      providerList :=
        replaceProvider
          { provider with adapters := provider.adapters - 1 }
          registry.providerList
      released := registry.released ++ [object]
    }

end Registry

end GameCapturer.Framework
