import SignIn.Proofs.Base64Text
import SignIn.Proofs.JsonRecords
import SignIn.Proofs.UuidText
import SignIn.Token.Signed

/-!
# A token reads back

No part of a token holds a dot, so a token is cut where it was joined. Its header is
accepted, its signature is the one that belongs to it, and its claims are the ones
that were written, up to the last second of the token.
-/
namespace SignIn

namespace Uuid

/-- A random identifier shows its version, so it is not the nil one. -/
theorem isNil_ofRandom (bits : BitVec 128) : (ofRandom bits).isNil = false := by
  have hversion : (ofRandom bits).bits.getLsbD 78 = true := by simp [ofRandom]
  rw [isNil, beq_eq_false_iff_ne]
  intro hzero
  rw [hzero] at hversion
  exact absurd hversion (by decide)

end Uuid

namespace Base64

theorem faithful_url : Alphabet.url.Faithful := by
  unfold Alphabet.Faithful
  decide

theorem dot_notMem_encode (bytes : Bytes) : '.' ∉ encode .url bytes := by
  have hdigit : ∀ v < 64, '.' ≠ Alphabet.url.digit v := by decide
  intro hdot
  obtain ⟨v, hv, heq⟩ := exists_digit_of_mem_encode hdot
  exact hdigit v hv heq

end Base64

namespace SignedToken

/-! ## Parts -/

theorem splitLast?_append {message sig : List Char} (h : '.' ∉ sig) :
    splitLast? (message ++ '.' :: sig) = some (message, sig) := by
  have hdot : '.' ∈ message ++ '.' :: sig := by simp
  have hreverse : (message ++ '.' :: sig).reverse = sig.reverse ++ '.' :: message.reverse := by
    simp
  have hsig : ∀ c ∈ sig.reverse, (c != '.') = true := by
    intro c hc
    rw [bne_iff_ne]
    rintro rfl
    exact h (List.mem_reverse.mp hc)
  simp only [splitLast?, if_pos hdot, hreverse, List.dropWhile_append_of_pos hsig,
    List.takeWhile_append_of_pos hsig]
  simp

theorem dot_notMem_encodePart (text : String) : '.' ∉ encodePart text := Base64.dot_notMem_encode _

theorem decodePart?_encodePart (j : Json) :
    decodePart? (encodePart j.text) = some (Json.Draft.ofJson j) := by
  rw [decodePart?, encodePart, Base64.decode?_encode Base64.faithful_url]
  exact Json.ofBytes?_text j

/-- The header that every token has is accepted. -/
theorem isAccepted_header : Header.isAccepted (Json.Draft.ofJson header) = true := by
  have hfields : header.fields? Header.members = some [("typ", .str "JWT"), ("alg", .str "HS256")] :=
    Json.fields?_obj (by decide) (by decide)
  have hread := Json.Draft.mapM_json?_ofMember
    [("typ", .str "JWT"), ("alg", .str "HS256")] (by simp [Json.isLegible])
  simp only [Header.isAccepted, Json.Draft.fields?_ofJson, hfields, Option.map_some, hread]
  decide

end SignedToken

/-! ## Claims -/

namespace Claims

variable {c : Claims}

/-- Times that fit 64 bits, as claims keep them. -/
def TimesFit (c : Claims) : Prop :=
  Decimal.Range.i64.contains c.issuedAt = true ∧ Decimal.Range.i64.contains c.expiresAt = true

/-- The claims as members of an object. -/
def fields (c : Claims) : Json.Fields :=
  [("jti", .ofUuid c.id), ("sub", .str c.userId), ("username", .str c.username),
    ("iat", .int c.issuedAt), ("exp", .int c.expiresAt)]

theorem map_fst_fields (c : Claims) : c.fields.map (·.1) = members := rfl

theorem nodup_fields (c : Claims) : (c.fields.map (·.1)).Nodup := by
  rw [map_fst_fields]
  decide

theorem fields?_members (c : Claims) : c.toJson.fields? members = some c.fields :=
  Json.fields?_obj (fun _ hm => List.mem_map_of_mem (f := (·.1)) hm) c.nodup_fields

/-- The claims name nothing that concerns a receiver. -/
theorem fields?_deliveryMembers (c : Claims) :
    c.toJson.fields? SignedToken.deliveryMembers = some [] := by
  have hapart : ∀ name ∈ members, name ∉ SignedToken.deliveryMembers := by decide
  refine Json.fields?_obj_of_notMem fun m hm => hapart m.1 ?_
  exact List.mem_map_of_mem (f := (·.1)) hm

theorem ofJson?_of_perm (hc : c.TimesFit) {fields : Json.Fields} (h : fields.Perm c.fields) :
    ofJson? (.obj fields) = some c := by
  have hfields : (Json.obj fields).fields? members = some fields :=
    Json.fields?_of_perm _ h (fun _ hm => List.mem_map_of_mem (f := (·.1)) hm) c.nodup_fields
  have hid : Json.uuid? (.ofUuid c.id) = some c.id := Uuid.ofText?_text c.id
  have hissued : Json.int64? (.int c.issuedAt) = some c.issuedAt := if_pos hc.1
  have hexpires : Json.int64? (.int c.expiresAt) = some c.expiresAt := if_pos hc.2
  rw [ofJson?, hfields]
  simp only [Option.bind_eq_bind, Option.bind_some, Json.required_of_perm h c.nodup_fields]
  simp [Json.Fields.required, Json.Fields.get?, Claims.fields, hid, hissued, hexpires, Json.str?]

theorem ofJson?_fields (h : c.TimesFit) : ofJson? (.obj c.fields) = some c :=
  ofJson?_of_perm h (.refl _)

theorem isLegible_of_mem_fields (h : c.TimesFit) (depth : Nat) :
    ∀ m ∈ c.fields, Json.isLegible depth m.2 = true := by
  intro m hm
  simp only [fields, List.mem_cons, List.not_mem_nil, or_false] at hm
  rcases hm with rfl | rfl | rfl | rfl | rfl
  · rfl
  · rfl
  · rfl
  · exact Json.inIntegerRange_of_i64 h.1
  · exact Json.inIntegerRange_of_i64 h.2

/-- Claims are read from any draft that has them as its members. -/
theorem claims?_of_fields? {d : Json.Draft} (h : c.TimesFit)
    (hd : d.fields? members = some (c.fields.map Json.Draft.ofMember)) :
    SignedToken.claims? d = some c := by
  have hread := Json.Draft.mapM_json?_ofMember c.fields (isLegible_of_mem_fields h _)
  unfold SignedToken.claims?
  refine Option.bind_eq_some_iff.mpr ⟨_, hd, ?_⟩
  exact Option.bind_eq_some_iff.mpr ⟨_, hread, ofJson?_fields h⟩

end Claims

namespace SignedToken

variable {c : Claims} {key : SigningKey} {now : Int}

/-- What becomes of claims that can be read. -/
theorem readClaims_decoded {part : List Char} {d : Json.Draft} {delivery : List (String × Json.Draft)}
    (hpart : decodePart? part = some d) (hobject : d.isObject = true) (hclaims : claims? d = some c)
    (hdelivery : d.fields? deliveryMembers = some delivery) :
    readClaims part now = if c.expiresAt < 0 ∨ deliveryOk delivery = false then .error .invalid
      else if c.isExpiredAt now then .error .expired
      else if hasAudience delivery then .error .invalid
      else .ok c := by
  have hdraft : (decodePart? part).filter Json.Draft.isObject = some d := by
    rw [hpart, Option.filter_some, if_pos hobject]
  simp only [readClaims, hdraft, hclaims, hdelivery]

/-- Claims are read up to and including their last second, unless they are for somebody else. -/
theorem readClaims_eq {part : List Char} {d : Json.Draft} {delivery : List (String × Json.Draft)}
    (hpart : decodePart? part = some d) (hobject : d.isObject = true) (hclaims : claims? d = some c)
    (hdelivery : d.fields? deliveryMembers = some delivery) (hok : deliveryOk delivery = true)
    (haudience : hasAudience delivery = false) (hnow : now ≤ c.expiresAt)
    (hend : 0 ≤ c.expiresAt) : readClaims part now = .ok c := by
  have hexpired : c.isExpiredAt now = false := by simp [Claims.isExpiredAt, hnow]
  have hnegative : ¬c.expiresAt < 0 := by omega
  rw [readClaims_decoded hpart hobject hclaims hdelivery]
  simp [hexpired, hnegative, hok, haudience]

theorem claims?_ofJson (h : c.TimesFit) : claims? (Json.Draft.ofJson c.toJson) = some c := by
  have hmembers : (Json.Draft.ofJson c.toJson).fields? Claims.members =
      some (c.fields.map Json.Draft.ofMember) := by
    rw [Json.Draft.fields?_ofJson, Claims.fields?_members]
    rfl
  exact Claims.claims?_of_fields? h hmembers

theorem fields?_deliveryMembers_ofJson (c : Claims) :
    (Json.Draft.ofJson c.toJson).fields? deliveryMembers = some [] := by
  rw [Json.Draft.fields?_ofJson, Claims.fields?_deliveryMembers]
  rfl

theorem readClaims_encodePart (h : c.TimesFit) (hnow : now ≤ c.expiresAt)
    (hend : 0 ≤ c.expiresAt) : readClaims (encodePart c.toJson.text) now = .ok c :=
  readClaims_eq (decodePart?_encodePart _) rfl (claims?_ofJson h) (fields?_deliveryMembers_ofJson c)
    rfl rfl hnow hend

theorem readClaims_encodePart_late (h : c.TimesFit) (hlate : c.expiresAt < now) :
    ∃ e, readClaims (encodePart c.toJson.text) now = .error e := by
  have hexpired : c.isExpiredAt now = true := by simp [Claims.isExpiredAt, hlate]
  rw [readClaims_decoded (decodePart?_encodePart _) rfl (claims?_ofJson h)
    (fields?_deliveryMembers_ofJson c), hexpired]
  split
  · exact ⟨_, rfl⟩
  · exact ⟨_, rfl⟩

/-- What becomes of a signed token with a proper header is decided by its claims. -/
theorem verify_signed_eq {head payload : List Char}
    (hhead : (decodePart? head).any Header.isAccepted = true) (hpayload : '.' ∉ payload) :
    verify key now (String.ofList
      (head ++ '.' :: payload ++ '.' :: signature key (head ++ '.' :: payload))) = (do
        let claims ← readClaims payload now
        claims.validate now
        return claims) := by
  have hsig : '.' ∉ signature key (head ++ '.' :: payload) := Base64.dot_notMem_encode _
  rw [verify, String.toList_ofList, verifyChars, splitLast?_append hsig]
  simp only [splitLast?_append hpayload, hhead]
  simp only [Bool.not_true, Bool.false_eq_true, if_false, ne_eq, not_true_eq_false]

/-- A token is accepted if it is signed, and if its header and its claims are. -/
theorem verify_signed {head payload : List Char}
    (hhead : (decodePart? head).any Header.isAccepted = true) (hpayload : '.' ∉ payload)
    (hread : readClaims payload now = .ok c) (hvalid : c.validate now = .ok ()) :
    verify key now (String.ofList
      (head ++ '.' :: payload ++ '.' :: signature key (head ++ '.' :: payload))) = .ok c := by
  rw [verify_signed_eq hhead hpayload, hread]
  change (do
    let _ ← c.validate now
    return c) = Except.ok c
  rw [hvalid]
  rfl

theorem validate_eq_ok (hid : c.id.isNil = false) (huser : c.userId ≠ "") (hname : c.username ≠ "")
    (hnow : now ≤ c.expiresAt) : c.validate now = .ok () := by
  simp [Claims.validate, Claims.isExpiredAt, hnow, hid, huser, hname]

theorem issue_ne_empty (key : SigningKey) (c : Claims) : issue key c ≠ "" := by
  intro h
  have hchars : issueChars key c = [] := by
    rw [← String.toList_ofList (l := issueChars key c)]
    exact congrArg String.toList h
  have hdot : '.' ∈ issueChars key c := List.mem_append_right _ List.mem_cons_self
  rw [hchars] at hdot
  cases hdot

/-- After its last second, a token that was issued is turned down. -/
theorem verify_issue_late (h : c.TimesFit) (hlate : c.expiresAt < now) :
    ∃ e, verify key now (issue key c) = .error e := by
  have hheader : (decodePart? (encodePart header.text)).any Header.isAccepted = true := by
    rw [decodePart?_encodePart]
    exact isAccepted_header
  obtain ⟨e, he⟩ := readClaims_encodePart_late h hlate
  have hverify : verify key now (issue key c) = _ :=
    verify_signed_eq hheader (dot_notMem_encodePart _)
  rw [he] at hverify
  exact ⟨e, hverify⟩

/-- A token that was issued for well-formed claims is read back as these. -/
theorem verify_issue (h : c.TimesFit) (hid : c.id.isNil = false) (huser : c.userId ≠ "")
    (hname : c.username ≠ "") (hnow : now ≤ c.expiresAt) (hend : 0 ≤ c.expiresAt) :
    verify key now (issue key c) = .ok c := by
  have hheader : (decodePart? (encodePart header.text)).any Header.isAccepted = true := by
    rw [decodePart?_encodePart]
    exact isAccepted_header
  exact verify_signed hheader (dot_notMem_encodePart _) (readClaims_encodePart h hnow hend)
    (validate_eq_ok hid huser hname hnow)

end SignedToken

namespace IssuedToken

variable {key : SigningKey}

/-- What a token is when it has just been made under a key: it has a random id of its own, names
the user, was issued at the time given, and ends a lifetime later, as far as 64 bits go. And it is
read as just that at every time up to its end. -/
structure IsFresh (key : SigningKey) (random : BitVec 128) (issuedAt : Int)
    (userId username : String) (ttl : Int) (t : IssuedToken) : Prop where
  claims : t.claims = ⟨Uuid.ofRandom random, userId, username, issuedAt,
    max (-9223372036854775808) (min 9223372036854775807 (issuedAt + ttl))⟩
  isNil : t.claims.id.isNil = false
  readsBack : ∀ now : Nat, (now : Int) ≤ t.claims.expiresAt →
    SignedToken.verify key now t.text = .ok t.claims

theorem isFresh_make (key : SigningKey) {userId username : String} (huser : userId ≠ "")
    (hname : username ≠ "") (random : BitVec 128) {issuedAt : Int}
    (hissued : Decimal.Range.i64.contains issuedAt = true) (ttl : Int) :
    IsFresh key random issuedAt userId username ttl
      (make key (Uuid.ofRandom random) issuedAt userId username ttl) where
  claims := rfl
  isNil := Uuid.isNil_ofRandom random
  readsBack := by
    intro now hnow
    have hfit : (Claims.make (Uuid.ofRandom random) issuedAt userId username ttl).TimesFit := by
      refine ⟨hissued, ?_⟩
      rw [Decimal.Range.contains_iff]
      simp only [Claims.make, Decimal.Range.clamp, Decimal.Range.i64]
      omega
    have hend : (0 : Int) ≤ now := Int.natCast_nonneg now
    exact SignedToken.verify_issue hfit (Uuid.isNil_ofRandom random) huser hname hnow
      (hend.trans hnow)

/-- Every secret of 32 bytes or more makes tokens that read back, alone and in pairs, for every
user that has an id and a name, every lifetime, and every time of issue. -/
theorem tokens_readBack (secret : String) (hsecret : 32 ≤ (Bytes.ofString secret).length)
    (userId username : String) (huser : userId ≠ "") (hname : username ≠ "") (ttl : Int)
    (random random' : BitVec 128) (issuedAt issuedAt' : Int)
    (hissued : Decimal.Range.i64.contains issuedAt = true)
    (hissued' : Decimal.Range.i64.contains issuedAt' = true) :
    ∃ key, SigningKey.ofSecret? secret = .ok key ∧
      IsFresh key random issuedAt userId username ttl
        (make key (Uuid.ofRandom random) issuedAt userId username ttl) ∧
      IsFresh key random issuedAt userId username ttl
        (makePair key (Uuid.ofRandom random, issuedAt) (Uuid.ofRandom random', issuedAt') userId
          username ttl).1 ∧
      IsFresh key random' issuedAt' userId username ttl
        (makePair key (Uuid.ofRandom random, issuedAt) (Uuid.ofRandom random', issuedAt') userId
          username ttl).2 := by
  have hlong : minSecretBytes ≤ (Bytes.ofString secret).length := hsecret
  have hfirst := isFresh_make ⟨Bytes.ofString secret, hlong⟩ huser hname random hissued ttl
  have hsecond := isFresh_make ⟨Bytes.ofString secret, hlong⟩ huser hname random' hissued' ttl
  exact ⟨⟨Bytes.ofString secret, hlong⟩, dif_pos hlong, hfirst, hfirst, hsecond⟩

/-- A name with a quote, a backslash, a line break and letters beyond ASCII, and a life that is cut
at 64 bits. -/
theorem tokens_readBack_odd_name :
    32 ≤ (Bytes.ofString "0123456789abcdef0123456789abcdef").length ∧
    ("42" ≠ "" ∧ "\"\\\né雪" ≠ "") ∧
    (Decimal.Range.i64.contains 1735689600 = true ∧ Decimal.Range.i64.contains 1735689601 = true) ∧
    ∃ key, SigningKey.ofSecret? "0123456789abcdef0123456789abcdef" = .ok key ∧
      IsFresh key 0 1735689600 "42" "\"\\\né雪" 9223372036854775807
        (make key (Uuid.ofRandom 0) 1735689600 "42" "\"\\\né雪" 9223372036854775807) ∧
      IsFresh key 0 1735689600 "42" "\"\\\né雪" 9223372036854775807
        (makePair key (Uuid.ofRandom 0, 1735689600) (Uuid.ofRandom 1, 1735689601) "42" "\"\\\né雪"
          9223372036854775807).1 ∧
      IsFresh key 1 1735689601 "42" "\"\\\né雪" 9223372036854775807
        (makePair key (Uuid.ofRandom 0, 1735689600) (Uuid.ofRandom 1, 1735689601) "42" "\"\\\né雪"
          9223372036854775807).2 := by
  have hsecret : 32 ≤ (Bytes.ofString "0123456789abcdef0123456789abcdef").length := by
    rw [Bytes.length_ofString]
    decide
  have hname : "\"\\\né雪" ≠ "" := by decide
  have hissued : Decimal.Range.i64.contains 1735689600 = true := by decide
  have hissued' : Decimal.Range.i64.contains 1735689601 = true := by decide
  exact ⟨hsecret, ⟨by decide, hname⟩, ⟨hissued, hissued'⟩,
    tokens_readBack _ hsecret "42" _ (by decide) hname 9223372036854775807 0 1 _ _ hissued hissued'⟩

end IssuedToken

end SignIn
