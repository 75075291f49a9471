import Gumd.Crypt
import Gumd.Validate

/-!
# Salts and encrypted secrets

The salt that is read back from an encrypted secret is the one the secret was encrypted with, for
the methods whose hashes mark the end of the salt.
-/

namespace Gumd

/-- The supported methods. -/
inductive CryptMethod where
  | md5
  | sha256
  | sha512
  | des
deriving DecidableEq

/-- The name of a method in the configuration. -/
def CryptMethod.name : CryptMethod → Str
  | .md5 => str "MD5"
  | .sha256 => str "SHA256"
  | .sha512 => str "SHA512"
  | .des => str "DES"

/-- What separates salt and body: hashes without a method identifier have no separator. -/
def hashSeparator (methodId : Str) : Str := if methodId = [] then [] else str "$"

/-- What `crypt` promises of a salt drawn from the salt characters.  It uses the salt or the
beginning of it, which works as a setting as well as the whole; the hash begins with the method
identifier and the salt used; its body is made of the salt characters. -/
structure CryptContract (crypt : Str → Str → Option Str) : Prop where
  hashes : ∀ (method : CryptMethod) (drawn : Str), drawn.length = saltLen →
    (∀ c ∈ drawn, c ∈ saltChars) → ∃ used, used <+: drawn ∧
      (∀ secret, crypt secret (saltMethodId (some method.name) ++ used) =
        crypt secret (saltMethodId (some method.name) ++ drawn)) ∧
      ∀ secret, gumValidateDbSecretEntry (some secret) = .ok () →
        ∃ body, (∀ c ∈ body, c ∈ saltChars) ∧
          crypt secret (saltMethodId (some method.name) ++ drawn) =
            some (saltMethodId (some method.name) ++ used ++
              hashSeparator (saltMethodId (some method.name)) ++ body)

/-- The secret is verified against its encryption, and every secret with another hash is refused. -/
def VerifiesEncrypted (crypt : Str → Str → Option Str) (urandom : List UInt8) (method : CryptMethod)
    (secret : Str) : Prop :=
  ∃ salt enc, generateSalt urandom (some method.name) = some salt ∧
    gumCryptEncryptSecret crypt urandom secret (some method.name) = some enc ∧
    gumCryptCmpSecret crypt (some secret) (some enc) = 0 ∧
    ∀ other, crypt other salt ≠ some enc → gumCryptCmpSecret crypt (some other) (some enc) ≠ 0

/-! ## Generated salts -/

/-- The characters `_generate_salt` draws. -/
def drawnSalt (urandom : List UInt8) : Str :=
  urandom.map fun byte => saltChars.getD (byte &&& 0x3f).toNat 0

theorem generateSalt_eq {urandom : List UInt8} (read : urandom.length = saltLen)
    (method : CryptMethod) :
    generateSalt urandom (some method.name) =
      some (saltMethodId (some method.name) ++ drawnSalt urandom) := by
  rw [generateSalt, if_neg (by simpa using read), drawnSalt]

theorem drawnSalt_mem (urandom : List UInt8) : ∀ c ∈ drawnSalt urandom, c ∈ saltChars := by
  have masked : ∀ byte : UInt8, (byte &&& 0x3f).toNat < saltChars.length := by
    intro byte
    have low : (byte &&& 0x3f).toNat ≤ 0x3f := by
      rw [UInt8.toNat_and]
      exact Nat.and_le_right
    have size : saltChars.length = 64 := by decide
    omega
  intro c mem
  obtain ⟨byte, -, rfl⟩ := List.mem_map.mp mem
  rw [List.getD_eq_getElem _ _ (masked byte)]
  exact List.getElem_mem _

theorem dollar_not_mem {text : Str} (drawn : ∀ c ∈ text, c ∈ saltChars) : 0x24 ∉ text := by
  intro mem
  exact absurd (drawn 0x24 mem) (by decide)

/-! ## Extracted salts -/

/-- The method identifiers are recognised in front of any text. -/
theorem encMethodidLen_append {method : CryptMethod} (other : method ≠ .des) (rest : Str) :
    (saltMethodId (some method.name)).length = methodidLen ∧
      encMethodidLen (saltMethodId (some method.name) ++ rest) = methodidLen := by
  cases method with
  | des => exact absurd rfl other
  | md5 => exact ⟨rfl, rfl⟩
  | sha256 => exact ⟨rfl, rfl⟩
  | sha512 => exact ⟨rfl, rfl⟩

theorem hashSeparator_eq {method : CryptMethod} (other : method ≠ .des) :
    hashSeparator (saltMethodId (some method.name)) = [0x24] := by
  cases method with
  | des => exact absurd rfl other
  | md5 => rfl
  | sha256 => rfl
  | sha512 => rfl

/-- The salt is everything before the separator. -/
theorem extractSalt_hash {method : CryptMethod} (other : method ≠ .des) {used : Str} (body : Str)
    (free : 0x24 ∉ used) :
    extractSalt (some (saltMethodId (some method.name) ++ used ++ [0x24] ++ body)) =
      some (saltMethodId (some method.name) ++ used) := by
  have split : saltMethodId (some method.name) ++ used ++ [0x24] ++ body =
      saltMethodId (some method.name) ++ (used ++ 0x24 :: body) := by simp
  obtain ⟨length, idLen⟩ := encMethodidLen_append other (used ++ 0x24 :: body)
  have separated : (used ++ 0x24 :: body).contains 0x24 = true := by simp
  have before : (used ++ 0x24 :: body).takeWhile (· ≠ 0x24) = used := by
    rw [List.takeWhile_append_of_pos, List.takeWhile_cons_of_neg (by simp), List.append_nil]
    intro c mem
    exact decide_eq_true fun same => free (same ▸ mem)
  rw [split, extractSalt, idLen, List.drop_left' length, List.take_left' length, if_pos separated, before]

/-- A text without a dollar sign has no salt. -/
theorem extractSalt_none {enc : Str} (free : 0x24 ∉ enc) : extractSalt (some enc) = none := by
  have noId : encMethodidLen enc = 0 := by
    unfold encMethodidLen
    split
    · exact absurd List.mem_cons_self free
    · rfl
  rw [extractSalt, noId, List.drop_zero, if_neg (by simpa using free)]

/-! ## Verification -/

/-- A hash that marks the end of its salt is compared with the hash under the salt it names. -/
theorem cmpSecret_hash {crypt : Str → Str → Option Str} {method : CryptMethod} (other : method ≠ .des)
    {used : Str} (body : Str) (free : 0x24 ∉ used) (secret : Str) :
    gumCryptCmpSecret crypt (some secret)
        (some (saltMethodId (some method.name) ++ used ++ [0x24] ++ body)) = 0 ↔
      crypt secret (saltMethodId (some method.name) ++ used) =
        some (saltMethodId (some method.name) ++ used ++ [0x24] ++ body) := by
  rw [gumCryptCmpSecret, extractSalt_hash other body free]
  exact gStrcmp0_eq_zero _ _

/-- An encrypted secret is verified if and only if the method is not DES. -/
theorem verifiesEncrypted_iff {crypt : Str → Str → Option Str} (contract : CryptContract crypt)
    {urandom : List UInt8} (read : urandom.length = saltLen) (method : CryptMethod) {secret : Str}
    (accepted : gumValidateDbSecretEntry (some secret) = .ok ()) :
    VerifiesEncrypted crypt urandom method secret ↔ method ≠ .des := by
  have generated := generateSalt_eq read method
  have salted := drawnSalt_mem urandom
  obtain ⟨used, begins, again, hashed⟩ := contract.hashes method (drawnSalt urandom)
    (by rw [drawnSalt, List.length_map, read]) salted
  obtain ⟨body, plain, hash⟩ := hashed secret accepted
  have usedFree : 0x24 ∉ used := dollar_not_mem fun c mem => salted c (begins.subset mem)
  have encrypted : gumCryptEncryptSecret crypt urandom secret (some method.name) =
      crypt secret (saltMethodId (some method.name) ++ drawnSalt urandom) := by
    rw [gumCryptEncryptSecret, generated]
  constructor
  · intro verifies isDes
    subst isDes
    have noId : saltMethodId (some CryptMethod.des.name) = [] := rfl
    have noSeparator : hashSeparator [] = [] := rfl
    obtain ⟨salt, enc, -, made, same, -⟩ := verifies
    rw [encrypted, hash, noId, noSeparator, List.nil_append, List.append_nil] at made
    obtain rfl := Option.some.inj made
    have free : 0x24 ∉ used ++ body := by
      rw [List.mem_append]
      exact not_or_intro usedFree (dollar_not_mem plain)
    rw [gumCryptCmpSecret, extractSalt_none free] at same
    have refused : (-1 : Int) = 0 := same
    omega
  · intro other
    rw [hashSeparator_eq other] at hash
    refine ⟨_, _, generated, encrypted.trans hash, ?_, ?_⟩
    · rw [cmpSecret_hash other body usedFree, again, hash]
    · intro wrong differs
      rw [ne_eq, cmpSecret_hash other body usedFree, again]
      exact differs

namespace Sample

/-- How many characters of the salt a method uses. -/
def usedSaltLen : CryptMethod → Nat
  | .md5 => 8
  | .sha256 => 16
  | .sha512 => 16
  | .des => 2

/-- The method a setting asks for. -/
def settingMethod (setting : Str) : CryptMethod :=
  if setting.take 3 = str "$1$" then .md5
  else if setting.take 3 = str "$5$" then .sha256
  else if setting.take 3 = str "$6$" then .sha512
  else .des

/-- The body of the hash of `secret` with a salt that begins like this one. -/
def bodyOfSecret (method : CryptMethod) (used secret : Str) : Str :=
  if used = (str "abcdefghijklmnop").take (usedSaltLen method) ∧ secret = str "secret" then
    match method with
    | .md5 => str "cHJi5PXp/ki/ktXzqlk6I1"
    | .sha256 => str "i7zHaTeYqXlesRXJ8dXj6o.MEFQdzfIJpJpcWAtszs6"
    | .sha512 =>
        str "J/AWykHqo2Tx5UtavGnFc3ytI33la50JpzLTarSWVhkIXK6wOjNwwZjsrIw2UgmrER2EKrSHCeQyAINEEXAk1/"
    | .des => str "NANd1rDfiNc"
  else []

/-- A hash function of the four methods that knows the hash of one secret. -/
def oneSecretCrypt (secret setting : Str) : Option Str :=
  let method := settingMethod setting
  let methodId := saltMethodId (some method.name)
  let used := (setting.drop methodId.length).take (usedSaltLen method)
  some (methodId ++ used ++ hashSeparator methodId ++ bodyOfSecret method used secret)

theorem bodyOfSecret_mem (method : CryptMethod) (used secret : Str) :
    ∀ c ∈ bodyOfSecret method used secret, c ∈ saltChars := by
  unfold bodyOfSecret
  split_ifs with known
  · cases method <;> decide +kernel
  · simp

theorem settingMethod_append {method : CryptMethod} {drawn : Str}
    (plain : ∀ c ∈ drawn, c ∈ saltChars) :
    settingMethod (saltMethodId (some method.name) ++ drawn) = method := by
  have free := dollar_not_mem plain
  cases method with
  | md5 => rfl
  | sha256 => rfl
  | sha512 => rfl
  | des =>
      have noId : saltMethodId (some CryptMethod.des.name) = [] := rfl
      have differs : ∀ methodId : Str, methodId.head? = some 0x24 → drawn.take 3 ≠ methodId := by
        intro methodId dollar same
        exact free (List.mem_of_mem_take (same ▸ List.mem_of_head? dollar))
      unfold settingMethod
      rw [noId, List.nil_append, if_neg (differs _ (by decide)), if_neg (differs _ (by decide)),
        if_neg (differs _ (by decide))]

theorem oneSecretCrypt_contract : CryptContract oneSecretCrypt := by
  constructor
  intro method drawn size plain
  refine ⟨drawn.take (usedSaltLen method), List.take_prefix _ _, ?_, ?_⟩
  · intro secret
    have plainUsed : ∀ c ∈ drawn.take (usedSaltLen method), c ∈ saltChars := by
      intro c mem
      exact plain c (List.mem_of_mem_take mem)
    unfold oneSecretCrypt
    rw [settingMethod_append plainUsed, settingMethod_append plain]
    simp only [List.drop_left, List.take_take, Nat.min_self]
  · intro secret accepted
    refine ⟨bodyOfSecret method (drawn.take (usedSaltLen method)) secret, bodyOfSecret_mem _ _ _, ?_⟩
    unfold oneSecretCrypt
    rw [settingMethod_append plain]
    simp only [List.drop_left]

/-- What `/dev/urandom` delivers. -/
def drawnBytes : List UInt8 := (List.range 16).map fun i => UInt8.ofNat (i + 38)

/-- A secret encrypted with DES is not verified. -/
theorem cmpSecret_des :
    gumCryptEncryptSecret oneSecretCrypt drawnBytes (str "secret") (some (str "DES")) =
      some (str "abNANd1rDfiNc") ∧
    gumCryptCmpSecret oneSecretCrypt (some (str "secret")) (some (str "abNANd1rDfiNc")) = -1 := by
  decide +kernel

theorem verifiesEncrypted_iff_secret :
    VerifiesEncrypted oneSecretCrypt drawnBytes .md5 (str "secret") ↔ CryptMethod.md5 ≠ .des :=
  verifiesEncrypted_iff oneSecretCrypt_contract (by decide) .md5 (by decide)

end Sample

end Gumd
