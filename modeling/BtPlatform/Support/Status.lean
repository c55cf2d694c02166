/-!
# Status codes and undefined behaviour

`Status` lists the status codes that the modelled code produces or compares
against; `other` stands for every remaining value of the C enumeration.
Computations that C leaves undefined, or that an `OI_ASSERT` rules out, end in
a `Fault` instead of a value.
-/

namespace Support

/-- What can go wrong outside the program's own error handling. -/
inductive Fault
  /-- an `OI_ASSERT` does not hold -/
  | assertion
  /-- a null pointer, or a null function pointer, is dereferenced -/
  | nullDeref
  /-- a freed block is dereferenced or freed again -/
  | useAfterFree
  /-- a read or write outside its buffer -/
  | outOfBounds
  /-- a loop bound of the model is exhausted -/
  | fuel
  deriving DecidableEq, Repr

/-- Stated as rewriting rules, not by definition: unfolding the bind of a long
computation in one step is expensive to check. -/
@[simp] theorem ok_bind {ε α β : Type} (a : α) (f : α → Except ε β) :
    (Except.ok a >>= f) = f a := (rfl)

@[simp] theorem error_bind {ε α β : Type} (e : ε) (f : α → Except ε β) :
    (Except.error e >>= f) = .error e := (rfl)

/-- A computation that succeeds, taken apart. -/
theorem bind_eq_ok {ε α β : Type} {x : Except ε α} {f : α → Except ε β} {b : β} :
    (x >>= f) = .ok b ↔ ∃ a, x = .ok a ∧ f a = .ok b := by
  cases x with
  | ok a => simp
  | error e => simp

/-- The values of `OI_STATUS` that the OBEX code names. -/
inductive Status
  | ok
  | invalidParameters
  | noResources
  | outOfMemory
  | fail
  | notFound
  | mbufOverflow
  | writeInProgress
  | invalidState
  | invalidHandle
  | notImplemented
  | accessDenied
  | obexContinue
  | obexCommandError
  | obexConnectionTimeout
  | obexConnectFailed
  | obexDisconnectFailed
  | obexError
  | obexIncompletePacket
  | obexLengthRequired
  | obexNotConnected
  | obexOperationInProgress
  | obexPutResponseError
  | obexGetResponseError
  | obexRequiredHeaderNotFound
  | obexServiceUnavailable
  | obexTooManyHeaderBytes
  | obexUnknownCommand
  | obexUnsupportedVersion
  | obexClientAbortedCommand
  | obexBadPacket
  | obexBadRequest
  | obexObjectOverflow
  | obexNotFound
  | obexAccessDenied
  | obexValueNotAcceptable
  | obexPacketOverflow
  | obexNoSuchFolder
  | obexNameRequired
  | obexPasswordTooLong
  | obexPreconditionFailed
  | obexUnauthorized
  | obexNotImplemented
  | obexInvalidAuthDigest
  | obexInvalidOperation
  | obexDatabaseFull
  | obexDatabaseLocked
  | obexInternalServerError
  | obexUnsupportedMediaType
  | obexPartialContent
  | obexMethodNotAllowed
  | obexSrvIncompleteGet
  | obexFolderBrowsingNotAllowed
  | obexServerForcedDisconnect
  | obexUseridTooLong
  | obexConflict
  | obexNotReady
  | obexNotModified
  | obexForbidden
  | obexCleanup
  | obexConnectInProgress
  | other (code : Nat)
  deriving DecidableEq, Repr

/-- The value of a status code. -/
def Status.code : Status → Nat
  | .ok => 0
  | .invalidParameters => 101
  | .notImplemented => 102
  | .noResources => 104
  | .outOfMemory => 106
  | .fail => 114
  | .notFound => 120
  | .mbufOverflow => 124
  | .accessDenied => 130
  | .invalidState => 408
  | .writeInProgress => 410
  | .invalidHandle => 414
  | .obexContinue => 1701
  | .obexCommandError => 1702
  | .obexConnectionTimeout => 1703
  | .obexConnectFailed => 1704
  | .obexDisconnectFailed => 1705
  | .obexError => 1706
  | .obexIncompletePacket => 1707
  | .obexLengthRequired => 1708
  | .obexNotConnected => 1709
  | .obexOperationInProgress => 1711
  | .obexPutResponseError => 1712
  | .obexGetResponseError => 1713
  | .obexRequiredHeaderNotFound => 1714
  | .obexServiceUnavailable => 1715
  | .obexTooManyHeaderBytes => 1716
  | .obexUnknownCommand => 1717
  | .obexUnsupportedVersion => 1718
  | .obexClientAbortedCommand => 1719
  | .obexBadPacket => 1720
  | .obexBadRequest => 1721
  | .obexObjectOverflow => 1723
  | .obexNotFound => 1724
  | .obexAccessDenied => 1735
  | .obexValueNotAcceptable => 1736
  | .obexPacketOverflow => 1737
  | .obexNoSuchFolder => 1738
  | .obexNameRequired => 1739
  | .obexPasswordTooLong => 1740
  | .obexPreconditionFailed => 1741
  | .obexUnauthorized => 1742
  | .obexNotImplemented => 1743
  | .obexInvalidAuthDigest => 1744
  | .obexInvalidOperation => 1745
  | .obexDatabaseFull => 1746
  | .obexDatabaseLocked => 1747
  | .obexInternalServerError => 1748
  | .obexUnsupportedMediaType => 1749
  | .obexPartialContent => 1750
  | .obexMethodNotAllowed => 1751
  | .obexSrvIncompleteGet => 1752
  | .obexFolderBrowsingNotAllowed => 1753
  | .obexServerForcedDisconnect => 1754
  | .obexUseridTooLong => 1757
  | .obexConflict => 1758
  | .obexNotReady => 1759
  | .obexNotModified => 1760
  | .obexForbidden => 1761
  | .obexCleanup => 1762
  | .obexConnectInProgress => 1763
  | .other code => code

/-- `OI_SUCCESS`. -/
abbrev Status.success (status : Status) : Bool := status == .ok

end Support
