import Synxed.Program.Runtime

/-!
The classic SPL Token program, as far as the settlement program uses it: the
layouts of a mint and a token account, and `TransferChecked`.

`tokenTransferChecked_frame` is what the settlement program's own accounts
need from it: it changes data and lamports of the two token accounts only.
-/

namespace Synxed.Program

open Synxed.Lib

/-! ### Layouts -/

/-- A `COption` in four tag bytes and a body of a fixed length. -/
def unpackOption {α : Type} (read : Bytes → Except Fault α) (bytes : Bytes) :
    Except Fault (Option α) := do
  let tag ← sliceAt bytes 0 4
  let body ← sliceAt bytes 4 bytes.length
  if tag = [0, 0, 0, 0] then .ok none
  else if tag = [1, 0, 0, 0] then do
    let value ← read body
    .ok (some value)
  else .error (.program .invalidAccountData)

structure TokenMint where
  decimals : UInt8
  isInitialized : Bool
  deriving DecidableEq

/-- `Mint::unpack`. -/
def TokenMint.unpack (data : Bytes) : Except Fault TokenMint := do
  ensure (data.length = 82) (.program .invalidAccountData)
  let _ ← unpackOption read32 (← sliceAt data 0 36)
  let decimals ← indexAt data 44
  let initialized ← indexAt data 45
  ensure (initialized = 0 ∨ initialized = 1) (.program .invalidAccountData)
  let _ ← unpackOption read32 (← sliceAt data 46 82)
  ensure (initialized = 1) (.program .uninitializedAccount)
  .ok ⟨decimals, initialized = 1⟩

structure TokenAccount where
  mint : Pubkey
  owner : Pubkey
  amount : UInt64
  delegate : Option Pubkey
  isFrozen : Bool
  /-- The rent reserve of a wrapped-SOL account. -/
  isNative : Option UInt64
  delegatedAmount : UInt64
  deriving DecidableEq

/-- `Account::unpack`. -/
def TokenAccount.unpack (data : Bytes) : Except Fault TokenAccount := do
  ensure (data.length = 165) (.program .invalidAccountData)
  let mint ← read32 (← sliceAt data 0 32)
  let owner ← read32 (← sliceAt data 32 64)
  let amount ← readU64 (← sliceAt data 64 72)
  let delegate ← unpackOption read32 (← sliceAt data 72 108)
  let state ← indexAt data 108
  ensure (state.toNat ≤ 2) (.program .invalidAccountData)
  let isNative ← unpackOption readU64 (← sliceAt data 109 121)
  let delegatedAmount ← readU64 (← sliceAt data 121 129)
  let _ ← unpackOption read32 (← sliceAt data 129 165)
  ensure (state ≠ 0) (.program .uninitializedAccount)
  .ok ⟨mint, owner, amount, delegate, state = 2, isNative, delegatedAmount⟩

/-- `Account::pack` after a change of the amount: only the amount's eight
bytes differ. -/
def withAmount (data : Bytes) (amount : UInt64) : Bytes :=
  data.take 64 ++ (u64Bytes amount ++ data.drop 72)

/-- The delegate's allowance after it spent some, and no delegate at all once
it is used up. -/
def withDelegated (data : Bytes) (remaining : UInt64) : Bytes :=
  let spent := data.take 121 ++ (u64Bytes remaining ++ data.drop 129)
  if remaining = 0 then spent.take 72 ++ ([0, 0, 0, 0] ++ spent.drop 76) else spent

/-! ### What a token account's bytes say -/

/-- The bytes of a token account, field by field. -/
def tokenAccountBytes (mint owner amount delegate : Bytes) (state : UInt8)
    (native delegated close : Bytes) : Bytes :=
  mint ++ (owner ++ (amount ++ (delegate ++ (state :: (native ++ (delegated ++ close))))))

/-- The fields' lengths. -/
structure TokenFields (mint owner amount delegate native delegated close : Bytes) : Prop where
  mint : mint.length = 32
  owner : owner.length = 32
  amount : amount.length = 8
  delegate : delegate.length = 36
  native : native.length = 12
  delegated : delegated.length = 8
  close : close.length = 36

theorem exists_tokenAccountBytes {data : Bytes} (length : data.length = 165) :
    ∃ mint owner amount delegate state native delegated close,
      TokenFields mint owner amount delegate native delegated close ∧
      data = tokenAccountBytes mint owner amount delegate state native delegated close := by
  obtain ⟨mint, rest, rfl, mintLength, length⟩ := exists_append_of_le data 32 (by omega)
  obtain ⟨owner, rest, rfl, ownerLength, length⟩ := exists_append_of_le rest 32 (by omega)
  obtain ⟨amount, rest, rfl, amountLength, length⟩ := exists_append_of_le rest 8 (by omega)
  obtain ⟨delegate, rest, rfl, delegateLength, length⟩ := exists_append_of_le rest 36 (by omega)
  obtain ⟨state, rest, rfl⟩ := List.exists_cons_of_length_pos (l := rest) (by omega)
  rw [List.length_cons] at length
  obtain ⟨native, rest, rfl, nativeLength, length⟩ := exists_append_of_le rest 12 (by omega)
  obtain ⟨delegated, close, rfl, delegatedLength, length⟩ := exists_append_of_le rest 8 (by omega)
  exact ⟨mint, owner, amount, delegate, state, native, delegated, close,
    ⟨mintLength, ownerLength, amountLength, delegateLength, nativeLength, delegatedLength,
      by omega⟩, rfl⟩

section Fields

variable {mint owner amount delegate native delegated close : Bytes}

theorem TokenFields.slices (fields : TokenFields mint owner amount delegate native delegated close)
    (state : UInt8) :
    (tokenAccountBytes mint owner amount delegate state native delegated close).length = 165 ∧
    sliceAt (tokenAccountBytes mint owner amount delegate state native delegated close) 0 32 =
      .ok mint ∧
    sliceAt (tokenAccountBytes mint owner amount delegate state native delegated close) 32 64 =
      .ok owner ∧
    sliceAt (tokenAccountBytes mint owner amount delegate state native delegated close) 64 72 =
      .ok amount ∧
    sliceAt (tokenAccountBytes mint owner amount delegate state native delegated close) 72 108 =
      .ok delegate ∧
    indexAt (tokenAccountBytes mint owner amount delegate state native delegated close) 108 =
      .ok state ∧
    sliceAt (tokenAccountBytes mint owner amount delegate state native delegated close) 109 121 =
      .ok native ∧
    sliceAt (tokenAccountBytes mint owner amount delegate state native delegated close) 121 129 =
      .ok delegated ∧
    sliceAt (tokenAccountBytes mint owner amount delegate state native delegated close) 129 165 =
      .ok close := by
  obtain ⟨hmint, howner, hamount, hdelegate, hnative, hdelegated, hclose⟩ := fields
  have part (front middle back : Bytes) (lo hi : Nat) (hlo : front.length = lo)
      (hhi : lo + middle.length = hi)
      (cut : tokenAccountBytes mint owner amount delegate state native delegated close =
        front ++ (middle ++ back)) :
      sliceAt (tokenAccountBytes mint owner amount delegate state native delegated close) lo hi =
        .ok middle := by
    rw [cut, sliceAt_eq_ok]
    exact slice_middle front hlo hhi
  refine ⟨by simp [tokenAccountBytes, *], ?_, ?_, ?_, ?_, ?_, ?_, ?_, ?_⟩
  · exact part [] mint _ 0 32 rfl (by omega) rfl
  · exact part mint owner _ 32 64 hmint (by omega) rfl
  · exact part (mint ++ owner) amount (delegate ++ (state :: (native ++ (delegated ++ close)))) 64 72
      (by simp [*]) (by omega) (by simp [tokenAccountBytes])
  · exact part (mint ++ (owner ++ amount)) delegate (state :: (native ++ (delegated ++ close)))
      72 108 (by simp [*]) (by omega) (by simp [tokenAccountBytes])
  · have cut : tokenAccountBytes mint owner amount delegate state native delegated close =
        (mint ++ (owner ++ (amount ++ delegate))) ++ state :: (native ++ (delegated ++ close)) := by
      simp [tokenAccountBytes]
    rw [indexAt_eq_ok, cut, List.getElem?_append_right (by simp [*])]
    simp [*]
  · exact part (mint ++ (owner ++ (amount ++ (delegate ++ [state])))) native (delegated ++ close)
      109 121 (by simp [*]) (by omega) (by simp [tokenAccountBytes])
  · exact part (mint ++ (owner ++ (amount ++ (delegate ++ (state :: native))))) delegated close
      121 129 (by simp [*]) (by omega) (by simp [tokenAccountBytes])
  · exact part (mint ++ (owner ++ (amount ++ (delegate ++ (state :: (native ++ delegated))))))
      close [] 129 165 (by simp [*]) (by omega) (by simp [tokenAccountBytes])

end Fields

/-- A token account's fields as `unpack` reads them. -/
structure TokenAccount.Reads (t : TokenAccount) (delegate : Bytes) (state : UInt8)
    (native close : Bytes) : Prop where
  delegateLength : delegate.length = 36
  nativeLength : native.length = 12
  closeLength : close.length = 36
  delegate : unpackOption read32 delegate = .ok t.delegate
  state : state.toNat ≤ 2 ∧ state ≠ 0 ∧ t.isFrozen = decide (state = 2)
  native : unpackOption readU64 native = .ok t.isNative
  close : ∃ authority, unpackOption read32 close = .ok authority

theorem TokenAccount.length_of_unpack {data : Bytes} {t : TokenAccount}
    (h : TokenAccount.unpack data = .ok t) : data.length = 165 := by
  rw [TokenAccount.unpack, ensure_bind_eq_ok] at h
  exact h.1

theorem TokenAccount.unpack_eq_ok {data : Bytes} {t : TokenAccount} :
    TokenAccount.unpack data = .ok t ↔ ∃ delegate state native close,
      t.Reads delegate state native close ∧
      data = tokenAccountBytes t.mint.val t.owner.val (u64Bytes t.amount) delegate state native
        (u64Bytes t.delegatedAmount) close := by
  constructor
  · intro h
    obtain ⟨mint, owner, amount, delegate, state, native, delegated, close, fields, rfl⟩ :=
      exists_tokenAccountBytes (TokenAccount.length_of_unpack h)
    obtain ⟨total, atMint, atOwner, atAmount, atDelegate, atState, atNative, atDelegated, atClose⟩ :=
      fields.slices state
    simp only [TokenAccount.unpack, total, atMint, atOwner, atAmount, atDelegate, atState,
      atNative, atDelegated, atClose, bind_eq_ok, ensure_eq_ok, exists_const, true_and,
      Except.ok.injEq, exists_eq_left', read32_eq_ok, readU64_eq_ok] at h
    obtain ⟨mintKey, ⟨_, readMint⟩, ownerKey, ⟨_, readOwner⟩, amountValue, readAmount, delegateKey,
      readDelegate, stateSmall, isNative, readNative, delegatedValue, readDelegated, closeKey,
      readClose, stateNonzero, rfl⟩ := h
    rw [List.take_of_length_le fields.mint.le] at readMint
    rw [List.take_of_length_le fields.owner.le] at readOwner
    refine ⟨delegate, state, native, close, ⟨fields.delegate, fields.native, fields.close,
      readDelegate, ⟨stateSmall, stateNonzero, rfl⟩, readNative, closeKey, readClose⟩, ?_⟩
    rw [← readMint, ← readOwner, ← readAmount, ← readDelegated]
  · rintro ⟨delegate, state, native, close, reads, rfl⟩
    obtain ⟨total, atMint, atOwner, atAmount, atDelegate, atState, atNative, atDelegated, atClose⟩ :=
      TokenFields.slices ⟨t.mint.property, t.owner.property, length_u64Bytes t.amount,
        reads.delegateLength, reads.nativeLength, length_u64Bytes t.delegatedAmount,
        reads.closeLength⟩ state
    obtain ⟨stateSmall, stateNonzero, frozen⟩ := reads.state
    obtain ⟨closeKey, readClose⟩ := reads.close
    simp only [TokenAccount.unpack, total, atMint, atOwner, atAmount, atDelegate, atState,
      atNative, atDelegated, atClose, bind_eq_ok, ensure_eq_ok, exists_const, true_and,
      Except.ok.injEq, exists_eq_left', read32_eq_ok, readU64_eq_ok]
    exact ⟨t.mint, ⟨t.mint.property.ge, List.take_of_length_le t.mint.property.le⟩, t.owner,
      ⟨t.owner.property.ge, List.take_of_length_le t.owner.property.le⟩, t.amount, rfl, t.delegate,
      reads.delegate, stateSmall, t.isNative, reads.native, t.delegatedAmount, rfl, closeKey,
      readClose, stateNonzero, by rw [← frozen]⟩

/-- Packing another amount changes the amount only. -/
theorem TokenAccount.unpack_withAmount {data : Bytes} {t : TokenAccount} (amount : UInt64)
    (h : TokenAccount.unpack data = .ok t) :
    TokenAccount.unpack (withAmount data amount) = .ok { t with amount := amount } := by
  obtain ⟨delegate, state, native, close, reads, rfl⟩ := TokenAccount.unpack_eq_ok.mp h
  refine TokenAccount.unpack_eq_ok.mpr ⟨delegate, state, native, close,
    ⟨reads.delegateLength, reads.nativeLength, reads.closeLength, reads.delegate, reads.state,
      reads.native, reads.close⟩, ?_⟩
  have taken : (tokenAccountBytes t.mint.val t.owner.val (u64Bytes t.amount) delegate state native
      (u64Bytes t.delegatedAmount) close).take 64 = t.mint.val ++ t.owner.val := by
    rw [tokenAccountBytes, ← List.append_assoc]
    exact List.take_left' (by simp [t.mint.property, t.owner.property])
  have dropped : (tokenAccountBytes t.mint.val t.owner.val (u64Bytes t.amount) delegate state native
      (u64Bytes t.delegatedAmount) close).drop 72 =
        delegate ++ (state :: (native ++ (u64Bytes t.delegatedAmount ++ close))) := by
    rw [tokenAccountBytes, ← List.append_assoc, ← List.append_assoc]
    exact List.drop_left' (by simp [t.mint.property, t.owner.property])
  rw [withAmount, taken, dropped]
  simp [tokenAccountBytes]

/-- A spent allowance is what is left of it; a used-up one has no delegate any
more. -/
theorem TokenAccount.unpack_withDelegated {data : Bytes} {t : TokenAccount} (remaining : UInt64)
    (h : TokenAccount.unpack data = .ok t) :
    TokenAccount.unpack (withDelegated data remaining) =
      .ok { t with
        delegate := if remaining = 0 then none else t.delegate
        delegatedAmount := remaining } := by
  obtain ⟨delegate, state, native, close, reads, rfl⟩ := TokenAccount.unpack_eq_ok.mp h
  have taken : (tokenAccountBytes t.mint.val t.owner.val (u64Bytes t.amount) delegate state native
      (u64Bytes t.delegatedAmount) close).take 121 =
        t.mint.val ++ (t.owner.val ++ (u64Bytes t.amount ++ (delegate ++ (state :: native)))) := by
    have front : tokenAccountBytes t.mint.val t.owner.val (u64Bytes t.amount) delegate state native
        (u64Bytes t.delegatedAmount) close =
        (t.mint.val ++ (t.owner.val ++ (u64Bytes t.amount ++ (delegate ++ (state :: native))))) ++
          (u64Bytes t.delegatedAmount ++ close) := by simp [tokenAccountBytes]
    rw [front]
    exact List.take_left' (by simp [t.mint.property, t.owner.property, reads.delegateLength,
      reads.nativeLength])
  have dropped : (tokenAccountBytes t.mint.val t.owner.val (u64Bytes t.amount) delegate state native
      (u64Bytes t.delegatedAmount) close).drop 129 = close := by
    have back : tokenAccountBytes t.mint.val t.owner.val (u64Bytes t.amount) delegate state native
        (u64Bytes t.delegatedAmount) close =
        (t.mint.val ++ (t.owner.val ++ (u64Bytes t.amount ++ (delegate ++ (state ::
          (native ++ u64Bytes t.delegatedAmount)))))) ++ close := by simp [tokenAccountBytes]
    rw [back]
    exact List.drop_left' (by simp [t.mint.property, t.owner.property, reads.delegateLength,
      reads.nativeLength])
  have spent : t.mint.val ++ (t.owner.val ++ (u64Bytes t.amount ++ (delegate ++
      (state :: native)))) ++ (u64Bytes remaining ++ close) =
      tokenAccountBytes t.mint.val t.owner.val (u64Bytes t.amount) delegate state native
        (u64Bytes remaining) close := by simp [tokenAccountBytes]
  rw [withDelegated, taken, dropped, spent]
  by_cases used : remaining = 0
  · rw [if_pos used, if_pos used]
    have tail : ([0, 0, 0, 0] ++ delegate.drop 4).length = 36 := by
      simp [reads.delegateLength]
    refine TokenAccount.unpack_eq_ok.mpr ⟨[0, 0, 0, 0] ++ delegate.drop 4, state, native, close,
      ⟨tail, reads.nativeLength, reads.closeLength, ?_, reads.state, reads.native, reads.close⟩, ?_⟩
    · have first : sliceAt ([0, 0, 0, 0] ++ delegate.drop 4) 0 4 = .ok [0, 0, 0, 0] := by
        rw [sliceAt_eq_ok]
        rfl
      have rest : sliceAt ([0, 0, 0, 0] ++ delegate.drop 4) 4
          ([0, 0, 0, 0] ++ delegate.drop 4).length = .ok (delegate.drop 4) := by
        rw [sliceAt_eq_ok, slice_eq_some, List.take_length]
        exact ⟨⟨by rw [tail]; decide, le_rfl⟩, rfl⟩
      rw [unpackOption, first, ok_bind, rest, ok_bind, if_pos rfl]
    · have cut : (t.mint.val ++ (t.owner.val ++ u64Bytes t.amount)).length = 72 := by
        simp [t.mint.property, t.owner.property]
      have front : tokenAccountBytes t.mint.val t.owner.val (u64Bytes t.amount) delegate state
          native (u64Bytes remaining) close = (t.mint.val ++ (t.owner.val ++ u64Bytes t.amount)) ++
            (delegate ++ (state :: (native ++ (u64Bytes remaining ++ close)))) := by
        simp [tokenAccountBytes]
      rw [front, List.take_left' cut, show 76 = 72 + 4 from rfl, ← List.drop_drop,
        List.drop_left' cut, List.drop_append_of_le_length (by rw [reads.delegateLength]; decide)]
      simp [tokenAccountBytes]
  · rw [if_neg used, if_neg used]
    exact TokenAccount.unpack_eq_ok.mpr ⟨delegate, state, native, close,
      ⟨reads.delegateLength, reads.nativeLength, reads.closeLength, reads.delegate, reads.state,
        reads.native, reads.close⟩, rfl⟩

/-! ### TransferChecked -/

/-- An error inside an invoked program is a failed invocation. -/
def invoking {α : Type} : Except Fault α → Except Fault α
  | .ok a => .ok a
  | .error _ => .error .invoke

theorem invoking_eq_ok {α : Type} {x : Except Fault α} {a : α} :
    invoking x = .ok a ↔ x = .ok a := by
  cases x <;> simp [invoking]

/-- The accounts after a transfer of `amount` tokens between two different
token accounts. Wrapped SOL carries its lamports along. -/
def moveTokens (accounts : Accounts) (source destination : Pubkey) (sender receiver : TokenAccount)
    (byDelegate : Bool) (amount : UInt64) : Accounts :=
  let sourceData := if byDelegate then
      withDelegated (accounts source).data (sender.delegatedAmount - amount)
    else (accounts source).data
  let debited := Function.update accounts source
    { accounts source with data := withAmount sourceData (sender.amount - amount) }
  let credited := Function.update debited destination
    { debited destination with
      data := withAmount (debited destination).data (receiver.amount + amount) }
  if sender.isNative.isSome then moveLamports credited source destination amount.toNat else credited

/-- `spl_token::instruction::transfer_checked`. -/
def tokenTransferChecked (source mint destination authority : AccountInfo) (amount : UInt64)
    (decimals : UInt8) (m : Machine) : Except Fault Machine := do
  ensure (source.isWritable ∧ destination.isWritable ∧ authority.isSigner) .invoke
  -- only the owning program may change an account's data
  ensure ((m.accounts source.key).owner = tokenProgramId ∧
    (m.accounts destination.key).owner = tokenProgramId) .invoke
  let sourceState ← invoking (TokenAccount.unpack (m.accounts source.key).data)
  let destinationState ← invoking (TokenAccount.unpack (m.accounts destination.key).data)
  ensure (¬ sourceState.isFrozen ∧ ¬ destinationState.isFrozen) .invoke
  ensure (amount ≤ sourceState.amount) .invoke
  ensure (sourceState.mint = destinationState.mint ∧ mint.key = sourceState.mint) .invoke
  let mintState ← invoking (TokenMint.unpack (m.accounts mint.key).data)
  ensure (decimals = mintState.decimals) .invoke
  let byDelegate : Bool := sourceState.delegate = some authority.key
  ensure (byDelegate ∨ sourceState.owner = authority.key) .invoke
  ensure (byDelegate → amount ≤ sourceState.delegatedAmount) .invoke
  -- a multisig owner needs its signers, and none are passed
  ensure (¬ ((m.accounts authority.key).owner = tokenProgramId ∧
    (m.accounts authority.key).data.length = 355)) .invoke
  let inner := m.inner ++
    [.transferChecked source.key mint.key destination.key authority.key amount decimals]
  if source.key = destination.key then .ok ⟨m.accounts, inner⟩
  else do
    ensure (destinationState.amount.toNat + amount.toNat ≤ u64Max) .invoke
    let moved := moveTokens m.accounts source.key destination.key sourceState destinationState
      byDelegate amount
    ensure (sourceState.isNative.isSome →
      amount.toNat ≤ (m.accounts source.key).lamports ∧
        (moved destination.key).lamports ≤ u64Max) .invoke
    .ok ⟨moved, inner⟩

section Frame

variable {accounts : Accounts} {source destination : Pubkey} {sender receiver : TokenAccount}
  {byDelegate : Bool} {amount : UInt64}

@[simp] theorem moveTokens_owner (k : Pubkey) :
    (moveTokens accounts source destination sender receiver byDelegate amount k).owner =
      (accounts k).owner := by
  by_cases native : sender.isNative.isSome <;> by_cases toDestination : k = destination <;>
    by_cases fromSource : k = source <;>
    simp_all [moveTokens, Function.update_apply]

theorem moveTokens_other {k : Pubkey} (hs : k ≠ source) (hd : k ≠ destination) :
    moveTokens accounts source destination sender receiver byDelegate amount k = accounts k := by
  by_cases native : sender.isNative.isSome <;>
    simp [moveTokens, native, moveLamports, hs, hd]

end Frame

/-- A token transfer changes no owner, changes nothing but its two token
accounts, and adds itself to the inner instructions. -/
theorem tokenTransferChecked_frame {source mint destination authority : AccountInfo}
    {amount : UInt64} {decimals : UInt8} {m m' : Machine}
    (h : tokenTransferChecked source mint destination authority amount decimals m = .ok m') :
    (∀ k, (m'.accounts k).owner = (m.accounts k).owner) ∧
      (∀ k, (m.accounts k).owner ≠ tokenProgramId → m'.accounts k = m.accounts k) ∧
      m'.inner = m.inner ++
        [.transferChecked source.key mint.key destination.key authority.key amount decimals] := by
  simp only [tokenTransferChecked, bind_eq_ok, ensure_eq_ok, exists_const] at h
  obtain ⟨_, ⟨sourceOwner, destinationOwner⟩, _, _, _, _, _, _, _, _, _, _, _, _, _, h⟩ := h
  split at h
  · cases h
    exact ⟨fun _ => rfl, fun _ _ => rfl, rfl⟩
  · simp only [bind_eq_ok, ensure_eq_ok, exists_const, Except.ok.injEq] at h
    obtain ⟨_, _, rfl⟩ := h
    refine ⟨fun k => moveTokens_owner k, fun k notToken => moveTokens_other ?_ ?_, rfl⟩
    · rintro rfl
      exact notToken sourceOwner
    · rintro rfl
      exact notToken destinationOwner

end Synxed.Program
