/-
Blob names tell keys apart. A name is read back from its front: the fixed
layers differ from each other and from the stages in their first letters,
and in a stage name each number ends at the letter after it, which is no
digit. So no two blobs of a network are stored under one name, whatever the
numbers of stages and repetitions.

Names are also plain: lower-case letters and digits only, so they mean the
same in any directory.
-/
import FireNet.Proofs.Files.Map
import FireNet.Weights.Parameters

set_option autoImplicit false

namespace FireNet

-- ============================================================== numbers

/-- The digits of a number. -/
def digits (n : Nat) : List Char := Nat.toDigits 10 n

/-- A number can be read back from its digits. -/
theorem digits_injective {a b : Nat} (h : digits a = digits b) : a = b := by
  have hread := congrArg (fun cs => Nat.ofDigitChars 10 cs 0) h
  simpa [digits] using hread

theorem isDigit_of_mem_digits {n : Nat} {c : Char} (h : c ∈ digits n) :
    c.isDigit = true :=
  Nat.isDigit_of_mem_toDigits (by decide) (by decide) h

/-- A number ends at the first character that is no digit. -/
theorem digits_append_cons_inj {a b : Nat} {c d : Char} {r s : List Char}
    (hc : c.isDigit = false) (hd : d.isDigit = false)
    (h : digits a ++ c :: r = digits b ++ d :: s) : a = b ∧ c = d ∧ r = s := by
  have hspan : ∀ (n : Nat) {e : Char} (rest : List Char), e.isDigit = false →
      (digits n ++ e :: rest).takeWhile Char.isDigit = digits n ∧
      (digits n ++ e :: rest).dropWhile Char.isDigit = e :: rest := by
    intro n e rest he
    have hall : ∀ x ∈ digits n, x.isDigit = true :=
      fun x hx => isDigit_of_mem_digits hx
    constructor
    · rw [List.takeWhile_append_of_pos hall,
        List.takeWhile_cons_of_neg (by simp [he]), List.append_nil]
    · rw [List.dropWhile_append_of_pos hall,
        List.dropWhile_cons_of_neg (by simp [he])]
  have hfront := congrArg (List.takeWhile Char.isDigit) h
  have hback := congrArg (List.dropWhile Char.isDigit) h
  rw [(hspan a r hc).1, (hspan b s hd).1] at hfront
  rw [(hspan a r hc).2, (hspan b s hd).2] at hback
  obtain ⟨hcd, hrs⟩ := List.cons.inj hback
  exact ⟨digits_injective hfront, hcd, hrs⟩

-- ================================================================ names

/-- The two branches have their own digits. -/
theorem BranchNumber.digit_injective {a b : BranchNumber}
    (h : a.digit = b.digit) : a = b := by
  cases a <;> cases b <;> first | rfl | cases h

/-- The character of a half. -/
def BlobKind.character : BlobKind → Char
  | .weight => 'w'
  | .bias => 'b'

/-- The two kinds of a blob have their own characters. -/
theorem BlobKind.character_injective {a b : BlobKind}
    (h : a.character = b.character) :
    a = b := by
  cases a <;> cases b <;> first | rfl | exact absurd h (by decide)

/-- A kind is no digit, so it ends the number before it. -/
theorem BlobKind.isDigit_character {a : BlobKind} :
    a.character.isDigit = false := by
  cases a <;> rfl

namespace BlobKey

variable {key other : BlobKey}

/-- The characters of a name: the parts of the address, each number behind a
letter of its own. -/
theorem toList_name :
    key.name.toList = match key.layer with
      | .stem => ['c', '1', key.kind.character]
      | .head => ['c', '5', key.kind.character]
      | .classifier => ['f', 'c', key.kind.character]
      | .block stage repetition branch index =>
        's' :: (digits stage ++ 'r'
          :: (digits repetition ++ 'x' :: (digits branch.digit ++
          key.kind.character :: digits index))) := by
  obtain ⟨layer, kind⟩ := key
  cases layer with
  | stem => cases kind <;> rfl
  | head => cases kind <;> rfl
  | classifier => cases kind <;> rfl
  | block stage repetition branch index =>
      cases kind <;> simp [name, digits, BlobKind.letter,
        BlobKind.character, toString]

/-- Blobs of one name are the same blob. -/
theorem name_injective (h : key.name = other.name) : key = other := by
  have hlist := congrArg String.toList h
  rw [toList_name, toList_name] at hlist
  obtain ⟨layer, kind⟩ := key
  obtain ⟨layer', kind'⟩ := other
  cases layer with
  | stem =>
      cases layer' <;> simp at hlist
      rw [BlobKind.character_injective hlist]
  | head =>
      cases layer' <;> simp at hlist
      rw [BlobKind.character_injective hlist]
  | classifier =>
      cases layer' <;> simp at hlist
      rw [BlobKind.character_injective hlist]
  | block stage repetition branch index =>
      cases layer' with
      | stem => simp at hlist
      | head => simp at hlist
      | classifier => simp at hlist
      | block stage' repetition' branch' index' =>
          -- from the left: a number ends where no digit follows
          obtain ⟨hstage, -, hlist⟩ :=
            digits_append_cons_inj rfl rfl (List.cons.inj hlist).2
          obtain ⟨hrepetition, -, hlist⟩ := digits_append_cons_inj rfl rfl hlist
          obtain ⟨hbranch, hkind, hlist⟩ :=
            digits_append_cons_inj BlobKind.isDigit_character
              BlobKind.isDigit_character hlist
          have hkinds : kind = kind' := BlobKind.character_injective hkind
          rw [hstage, hrepetition, BranchNumber.digit_injective hbranch, hkinds,
            digits_injective hlist]

end BlobKey

theorem BlobKind.isLower_character {a : BlobKind} :
    a.character.isLower = true := by
  cases a <;> rfl

namespace BlobKey

variable {key : BlobKey}

/-- Names are made of lower-case letters and digits. -/
theorem isLower_or_isDigit_of_mem_name {c : Char} (h : c ∈ key.name.toList) :
    c.isLower = true ∨ c.isDigit = true := by
  have hkind : key.kind.character.isLower = true := BlobKind.isLower_character
  have hdigits : ∀ n : Nat, ∀ d ∈ digits n,
      d.isLower = true ∨ d.isDigit = true :=
    fun _ _ hd => .inr (isDigit_of_mem_digits hd)
  rw [toList_name] at h
  revert c
  cases key.layer with
  | stem => simp [hkind]
  | head => simp [hkind]
  | classifier => simp [hkind]
  | block stage repetition branch index =>
      simp only [List.forall_mem_cons, List.forall_mem_append]
      exact ⟨.inl rfl, hdigits stage, .inl rfl, hdigits repetition, .inl rfl,
        hdigits branch.digit, .inl hkind, hdigits index⟩

theorem toList_name_ne_nil : key.name.toList ≠ [] := by
  rw [toList_name]
  cases key.layer <;> exact List.cons_ne_nil _ _

/-- Names have letters and digits only, so they are plain names of files. -/
theorem plain_name : Plain key.name := by
  refine ⟨toList_name_ne_nil, fun c hc => ?_⟩
  show (c.isUpper || c.isLower || c.isDigit) = true
  rcases isLower_or_isDigit_of_mem_name hc with hlower | hdigit
  · rw [hlower, Bool.or_true, Bool.true_or]
  · rw [hdigit, Bool.or_true]

end BlobKey

-- ========================================================== all the keys

/-- The addresses of some layers. -/
def addresses (layers : List (LayerAddress × Layer)) : List LayerAddress :=
  layers.map Prod.fst

theorem addresses_append {first second : List (LayerAddress × Layer)} :
    addresses (first ++ second) = addresses first ++ addresses second :=
  List.map_append

theorem BlockLayers.mem_addresses {stage repetition : Nat} {b : BlockLayers}
    {a : LayerAddress} (h : a ∈ addresses (b.addressed stage repetition)) :
    ∃ branch index, a = .block stage repetition branch index := by
  unfold BlockLayers.addressed addresses at h
  cases hside : b.side with
  | none =>
      simp only [hside, List.nil_append, List.map_cons, List.map_nil,
        List.mem_cons, List.not_mem_nil, or_false] at h
      rcases h with h | h | h <;> exact ⟨_, _, h⟩
  | some s =>
      simp only [hside, List.cons_append, List.nil_append, List.map_cons,
        List.map_nil, List.mem_cons, List.not_mem_nil, or_false] at h
      rcases h with h | h | h | h | h <;> exact ⟨_, _, h⟩

/-- The layers of a block have addresses of their own. -/
theorem BlockLayers.nodup_addresses {stage repetition : Nat} {b : BlockLayers} :
    (addresses (b.addressed stage repetition)).Nodup := by
  unfold BlockLayers.addressed addresses
  cases b.side with
  | none => simp
  | some s => simp

/-- Blocks in a row are numbered on from the first. -/
theorem BlockLayers.mem_addressesFrom {stage repetition : Nat}
    {blocks : List BlockLayers} {a : LayerAddress}
    (h : a ∈ addresses (BlockLayers.addressedFrom stage repetition blocks)) :
    ∃ r branch index, repetition ≤ r ∧ a = .block stage r branch index := by
  induction blocks generalizing repetition with
  | nil => cases h
  | cons b rest ih =>
      rw [BlockLayers.addressedFrom, addresses_append, List.mem_append] at h
      rcases h with h | h
      · obtain ⟨branch, index, ha⟩ := BlockLayers.mem_addresses h
        exact ⟨repetition, branch, index, Nat.le_refl _, ha⟩
      · obtain ⟨r, branch, index, hr, ha⟩ := ih h
        exact ⟨r, branch, index, by omega, ha⟩

/-- So they share no address. -/
theorem BlockLayers.nodup_addressesFrom {stage repetition : Nat}
    {blocks : List BlockLayers} :
    (addresses (BlockLayers.addressedFrom stage repetition blocks)).Nodup := by
  induction blocks generalizing repetition with
  | nil => exact List.nodup_nil
  | cons b rest ih =>
      rw [BlockLayers.addressedFrom, addresses_append, List.nodup_append]
      refine ⟨BlockLayers.nodup_addresses, ih, ?_⟩
      intro a ha c hc heq
      obtain ⟨branch, index, hfirst⟩ := BlockLayers.mem_addresses ha
      obtain ⟨r, branch', index', hr, hlater⟩ :=
        BlockLayers.mem_addressesFrom hc
      rw [hfirst, hlater] at heq
      injection heq with _ hrepetition
      omega

/-- Stages are numbered on from the first. -/
theorem StageLayers.mem_addressesFrom {stage : Nat} {stages : List StageLayers}
    {a : LayerAddress}
    (h : a ∈ addresses (StageLayers.addressedFrom stage stages)) :
    ∃ t r branch index, stage ≤ t ∧ a = .block t r branch index := by
  induction stages generalizing stage with
  | nil => cases h
  | cons s rest ih =>
      rw [StageLayers.addressedFrom, addresses_append, List.mem_append] at h
      rcases h with h | h
      · obtain ⟨r, branch, index, -, ha⟩ := BlockLayers.mem_addressesFrom h
        exact ⟨stage, r, branch, index, Nat.le_refl _, ha⟩
      · obtain ⟨t, r, branch, index, ht, ha⟩ := ih h
        exact ⟨t, r, branch, index, by omega, ha⟩

theorem StageLayers.nodup_addressesFrom {stage : Nat}
    {stages : List StageLayers} :
    (addresses (StageLayers.addressedFrom stage stages)).Nodup := by
  induction stages generalizing stage with
  | nil => exact List.nodup_nil
  | cons s rest ih =>
      rw [StageLayers.addressedFrom, addresses_append, List.nodup_append]
      refine ⟨BlockLayers.nodup_addressesFrom, ih, ?_⟩
      intro a ha c hc heq
      obtain ⟨r, branch, index, -, hfirst⟩ := BlockLayers.mem_addressesFrom ha
      obtain ⟨t, r', branch', index', ht, hlater⟩ :=
        StageLayers.mem_addressesFrom hc
      rw [hfirst, hlater] at heq
      injection heq with hstage
      omega

/-- No two layers of a network have one address. -/
theorem Parameters.nodup_addresses (p : Parameters) :
    (addresses p.layers).Nodup := by
  have hblock : ∀ a ∈ addresses (StageLayers.addressedFrom 2 p.stages),
      a ≠ .stem ∧ a ≠ .head ∧ a ≠ .classifier := by
    intro a ha
    obtain ⟨t, r, branch, index, -, ha⟩ := StageLayers.mem_addressesFrom ha
    rw [ha]
    exact ⟨nofun, nofun, nofun⟩
  show (LayerAddress.stem :: .head :: .classifier ::
    addresses (StageLayers.addressedFrom 2 p.stages)).Nodup
  simp only [List.nodup_cons, List.mem_cons, not_or]
  exact ⟨⟨nofun, nofun, fun h => (hblock _ h).1 rfl⟩,
    ⟨nofun, fun h => (hblock _ h).2.1 rfl⟩,
    fun h => (hblock _ h).2.2 rfl, StageLayers.nodup_addressesFrom⟩

/-- The keys of a layer are its address with one half each. -/
theorem Parameters.nodup_keys_blobs {address : LayerAddress} {layer : Layer} :
    ((Parameters.blobs address layer).map Prod.fst).Nodup
      ∧ ∀ key ∈ (Parameters.blobs address layer).map Prod.fst,
        key.layer = address := by
  unfold Parameters.blobs
  cases layer.bias with
  | none => simp [BlobKey.weight]
  | some bias => simp [BlobKey.weight, BlobKey.bias]

/-- No key occurs twice. -/
theorem Parameters.nodup_keys (p : Parameters) :
    (p.allBlobs.map Prod.fst).Nodup := by
  have hdistinct := p.nodup_addresses
  unfold addresses at hdistinct
  rw [List.Nodup, List.pairwise_map] at hdistinct
  rw [Parameters.allBlobs, List.map_flatMap, List.Nodup, List.pairwise_flatMap]
  refine ⟨fun entry _ => Parameters.nodup_keys_blobs.1, hdistinct.imp ?_⟩
  intro first second hne key hkey other hother heq
  apply hne
  rw [← Parameters.nodup_keys_blobs.2 key hkey, ← Parameters.nodup_keys_blobs.2
    other hother, heq]

end FireNet
