import SignIn.Password.Hash
import SignIn.Proofs.Base64Text

/-!
# The hash of a password admits the password

The text of a hash is cut back into the fields it was joined from. Those that depend on
the parameters are fixed, and the salt and the digest are read from their digits.
-/
namespace SignIn.HashText

/-- The digits that salts and digests are written in. -/
def digits (bytes : Bytes) : List Char := Base64.encode .standard bytes

theorem isValueChar_of_mem_digits {bytes : Bytes} {c : Char} (hc : c ∈ digits bytes) :
    isValueChar c = true ∧ c.utf8Size = 1 ∧ c ≠ '$' := by
  obtain ⟨v, hv, rfl⟩ := Base64.exists_digit_of_mem_encode hc
  have hall : ∀ v < 64, isValueChar (Base64.Alphabet.standard.digit v) = true ∧
      (Base64.Alphabet.standard.digit v).utf8Size = 1 ∧
      Base64.Alphabet.standard.digit v ≠ '$' := by
    decide
  exact hall v hv

theorem byteSize_of_forall {cs : List Char} (h : ∀ c ∈ cs, c.utf8Size = 1) :
    byteSize cs = cs.length := by
  unfold byteSize
  induction cs with
  | nil => rfl
  | cons c cs ih =>
    have hrest := ih fun x hx => h x (List.mem_cons_of_mem c hx)
    rw [String.ofList_cons, String.utf8ByteSize_append, String.utf8ByteSize_singleton,
      h c List.mem_cons_self, hrest, List.length_cons, Nat.add_comm]

theorem byteSize_digits (bytes : Bytes) : byteSize (digits bytes) = (bytes.length * 4 + 2) / 3 := by
  rw [byteSize_of_forall fun c hc => (isValueChar_of_mem_digits hc).2.1]
  exact Base64.length_encode ..

theorem find?_digits (bytes : Bytes) : (digits bytes).find? (!isValueChar ·) = none := by
  refine List.find?_eq_none.mpr fun c hc => ?_
  rw [(isValueChar_of_mem_digits hc).1]
  decide

theorem bytesUpTo_digits {bytes : Bytes} (h : bytes.length ≤ 64) :
    bytesUpTo 64 (digits bytes) = .ok bytes := by
  have hlength : ¬ 64 < Base64.decodedLength (byteSize (digits bytes)) := by
    rw [byteSize_digits]
    unfold Base64.decodedLength
    omega
  unfold bytesUpTo
  rw [if_neg hlength, digits, Base64.decode?_encode Base64.faithful_standard]

theorem salt?_digits {bytes : Bytes} (h : 3 ≤ bytes.length ∧ bytes.length ≤ 48) :
    salt? (digits bytes) = .ok (digits bytes) := by
  unfold salt?
  rw [byteSize_digits, if_neg (by omega), if_neg (by omega), find?_digits]

theorem digest?_digits {bytes : Bytes} (h : 10 ≤ bytes.length ∧ bytes.length ≤ 64) :
    digest? (digits bytes) = .ok bytes := by
  unfold digest?
  rw [bytesUpTo_digits h.2]
  exact if_neg (Nat.not_lt.mpr h.1)

/-- The fields of a hash from which nothing is missing. -/
theorem fields_eq {h : HashText} {v : Nat} {p : List Char × List Char}
    {more : List (List Char × List Char)} {salt : List Char} {d : Bytes} (hv : h.version = some v)
    (hp : h.params = p :: more) (hs : h.salt = some salt) (hd : h.digest = some d) :
    h.fields = [[], h.algorithm, 'v' :: '=' :: Decimal.ofNat v,
      Split.join ',' ((p :: more).map paramChars), salt, digits d] := by
  unfold fields
  rw [hv, hp, hs, hd]
  rfl

theorem admits_eq {h : HashText} {salt : List Char} {d bytes password : Bytes} {costs : Costs}
    {algorithm : Argon2.Variant} {v : Argon2.Version} (hs : h.salt = some salt)
    (hd : h.digest = some d) (hcosts : h.params.foldlM Costs.set Costs.standard = .ok costs)
    (hcheck : costs.check = .ok ()) (ha : variant h.algorithm = .ok algorithm)
    (hv : version? h.version = .ok v) (hbytes : bytesUpTo 64 salt = .ok bytes)
    (hlength : 8 ≤ bytes.length) :
    h.admits password = .ok (Argon2.digest
      ⟨algorithm, v, costs.memory, costs.passes, costs.lanes, costs.data, d.length⟩ password bytes
        == d) := by
  unfold admits
  simp only [hs, hd, hcosts, hcheck, ha, hv, hbytes, bind, Except.bind,
    if_neg (Nat.not_lt.mpr hlength)]
  rfl

end SignIn.HashText

namespace SignIn.Password

theorem length_digest_eq_tagLength (password : String) (salt : Salt) :
    (digest password salt).length = standard.tagLength := by
  unfold digest
  exact Argon2.length_digest standard (by decide) _ _

theorem length_digest (password : String) (salt : Salt) : (digest password salt).length = 32 := by
  rw [length_digest_eq_tagLength]
  rfl

/-- A hash with the parameters of new hashes. -/
def text (salt : List Char) (d : Bytes) : HashText where
  algorithm := "argon2id".toList
  version := some 19
  params := [(['m'], "19456".toList), (['t'], "2".toList), (['p'], "1".toList)]
  salt := some salt
  digest := some d

theorem hashText_eq (password : String) (salt : Salt) :
    hashText password salt = text (HashText.digits salt.toList) (digest password salt) := by
  have hmemory : Decimal.ofNat 19456 = "19456".toList := by decide +kernel
  have hpasses : Decimal.ofNat 2 = "2".toList := by decide +kernel
  have hlanes : Decimal.ofNat 1 = "1".toList := by decide +kernel
  unfold hashText text
  rw [hmemory, hpasses, hlanes]
  rfl

/-- The fields that all new hashes share, in front of the salt and the digest. -/
def head : List (List Char) := [[], "argon2id".toList, "v=19".toList, "m=19456,t=2,p=1".toList]

theorem fields_text (salt : List Char) (d : Bytes) :
    (text salt d).fields = head ++ [salt, HashText.digits d] := by
  have hversion : 'v' :: '=' :: Decimal.ofNat 19 = "v=19".toList := by decide +kernel
  have hparams : Split.join ',' ([(['m'], "19456".toList), (['t'], "2".toList),
      (['p'], "1".toList)].map HashText.paramChars) = "m=19456,t=2,p=1".toList := by
    rfl
  have hfields := HashText.fields_eq (h := text salt d) rfl rfl rfl rfl
  rw [hversion] at hfields
  exact hfields.trans (congrArg (fun x => [[], "argon2id".toList, "v=19".toList, x, salt,
    HashText.digits d]) hparams)

theorem not_mem_fields {salt : List Char} {d : Bytes} (hsalt : '$' ∉ salt) {field : List Char}
    (h : field ∈ (text salt d).fields) : '$' ∉ field := by
  have hhead : ∀ field ∈ head, '$' ∉ field := by decide
  rw [fields_text, List.mem_append] at h
  rcases h with h | h
  · exact hhead field h
  · simp only [List.mem_cons, List.not_mem_nil, or_false] at h
    rcases h with rfl | rfl
    · exact hsalt
    · exact fun hc => (HashText.isValueChar_of_mem_digits hc).2.2 rfl

/-- The text of a hash is read back. -/
theorem ofChars_text {salt d : Bytes} (hsalt : 3 ≤ salt.length ∧ salt.length ≤ 48)
    (hd : 10 ≤ d.length ∧ d.length ≤ 64) :
    HashText.ofChars (text (HashText.digits salt) d).chars =
      .ok (text (HashText.digits salt) d) := by
  have hpieces : Split.pieces '$' (text (HashText.digits salt) d).chars =
      (text (HashText.digits salt) d).fields := by
    refine Split.pieces_join (List.cons_ne_nil _ _) fun _ hp => not_mem_fields (fun hc => ?_) hp
    exact (HashText.isValueChar_of_mem_digits hc).2.2 rfl
  have hname : HashText.name "argon2id".toList = .ok "argon2id".toList := by rfl
  have hversion (fields : List (List Char)) :
      HashText.takeVersion ("v=19".toList :: fields) = .ok (some 19, fields) := by
    rfl
  have hparams (fields : List (List Char)) :
      HashText.takeParams ("m=19456,t=2,p=1".toList :: fields) =
        .ok ([(['m'], "19456".toList), (['t'], "2".toList), (['p'], "1".toList)], fields) := by
    rfl
  have hlast : HashText.takeDigest [HashText.digits salt, HashText.digits d] =
      .ok (some (HashText.digits salt), some d) := by
    unfold HashText.takeDigest
    simp only [HashText.salt?_digits hsalt, HashText.digest?_digits hd]
    rfl
  unfold HashText.ofChars
  rw [hpieces, fields_text]
  simp only [head, List.cons_append, List.nil_append, HashText.ofFields, hname, hversion, bind,
    Except.bind, hparams, hlast]
  rfl

/-- A password fits a hash when it has the digest of the hash. -/
theorem admits_text {salt d : Bytes} (hsalt : 8 ≤ salt.length ∧ salt.length ≤ 64)
    (password : Bytes) :
    (text (HashText.digits salt) d).admits password =
      .ok (Argon2.digest ⟨.id, .v19, 19456, 2, 1, [], d.length⟩ password salt == d) := by
  have hcosts : (text (HashText.digits salt) d).params.foldlM HashText.Costs.set
      HashText.Costs.standard = .ok ⟨19456, 2, 1, []⟩ := by
    rfl
  have hcheck : HashText.Costs.check ⟨19456, 2, 1, []⟩ = .ok () := by rfl
  have hvariant : HashText.variant (text (HashText.digits salt) d).algorithm = .ok .id := by rfl
  have hversion : HashText.version? (text (HashText.digits salt) d).version = .ok .v19 := by rfl
  have hbytes : HashText.bytesUpTo 64 (HashText.digits salt) = .ok salt :=
    HashText.bytesUpTo_digits hsalt.2
  rw [HashText.admits_eq (h := text (HashText.digits salt) d) rfl rfl hcosts hcheck hvariant
    hversion hbytes hsalt.1]

/-- A new hash is read back as what it was written from. -/
theorem ofChars_hash (password : String) (salt : Salt) :
    HashText.ofChars (hash password salt).toList = .ok (hashText password salt) := by
  have hlength := length_digest password salt
  have hsalt : salt.toList.length = 16 := by simp
  unfold hash
  rw [String.toList_ofList, hashText_eq]
  exact ofChars_text (by omega) (by omega)

/-- Every stored hash can be checked, and a password fits it when it has the same digest. -/
theorem verify_hash_eq (password other : String) (salt : Salt) :
    verify other (hash password salt) = .ok (digest other salt == digest password salt) := by
  have hlong : 8 ≤ salt.toList.length ∧ salt.toList.length ≤ 64 := by simp
  have hadmits := admits_text (d := digest password salt) hlong (Bytes.ofString other)
  have hdigest : Argon2.digest ⟨.id, .v19, 19456, 2, 1, [], (digest password salt).length⟩
      (Bytes.ofString other) salt.toList = digest other salt := by
    rw [length_digest]
    unfold digest standard
    exact Eq.refl _
  rw [hdigest] at hadmits
  unfold verify
  rw [ofChars_hash, hashText_eq]
  simp only [hadmits]

/-- A password fits its own hash. -/
theorem verify_hash (password : String) (salt : Salt) :
    verify password (hash password salt) = .ok true := by
  rw [verify_hash_eq, beq_self_eq_true]

end SignIn.Password
