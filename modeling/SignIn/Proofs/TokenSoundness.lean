import SignIn.Proofs.TokenRoundTrip

/-!
# What an accepted token is

A token that is accepted was signed under the key at hand, and says what is read from
it, each thing once. The signature stands for the two parts in front of it, so these
two make one token at most.

What an object holds is said of its draft: it gives a value under a name if it has one
member of that name, and that one has the value.
-/
namespace SignIn

/-! ## Base64 -/

namespace Base64

theorem isSome_of_decode? {a : Alphabet} {cs : List Char} {bytes : Bytes}
    (h : decode? a cs = some bytes) : ∀ c ∈ cs, (a.value? c).isSome = true := by
  fun_induction decode? a cs generalizing bytes with
  | case1 c0 c1 c2 c3 rest ih =>
    simp only [Option.bind_eq_bind, Option.bind_eq_some_iff] at h
    obtain ⟨v0, h0, v1, h1, v2, h2, v3, h3, more, hmore, -⟩ := h
    intro c hc
    simp only [List.mem_cons] at hc
    rcases hc with rfl | rfl | rfl | rfl | hc
    · simp [h0]
    · simp [h1]
    · simp [h2]
    · simp [h3]
    · exact ih hmore c hc
  | case2 c0 c1 c2 =>
    simp only [Option.bind_eq_bind, Option.bind_eq_some_iff] at h
    obtain ⟨v0, h0, v1, h1, v2, h2, -⟩ := h
    intro c hc
    simp only [List.mem_cons, List.not_mem_nil, or_false] at hc
    rcases hc with rfl | rfl | rfl
    · simp [h0]
    · simp [h1]
    · simp [h2]
  | case3 c0 c1 =>
    simp only [Option.bind_eq_bind, Option.bind_eq_some_iff] at h
    obtain ⟨v0, h0, v1, h1, -⟩ := h
    intro c hc
    simp only [List.mem_cons, List.not_mem_nil, or_false] at hc
    rcases hc with rfl | rfl
    · simp [h0]
    · simp [h1]
  | case4 => cases h
  | case5 => exact fun c hc => absurd hc List.not_mem_nil

theorem dot_notMem_of_decode? {cs : List Char} {bytes : Bytes}
    (h : decode? .url cs = some bytes) : '.' ∉ cs := by
  intro hdot
  have hvalue := isSome_of_decode? h '.' hdot
  exact absurd hvalue (by decide)

end Base64

namespace Json.Draft

/-! ## What an object gives -/

/-- The values that an object has under a name. -/
def under (name : String) : Draft → List Draft
  | .obj members => (members.filter fun m => text? m.1 = some name).map (·.2)
  | _ => []

/-- An object has one member of this name, and it has this value. -/
def Gives (d : Draft) (name : String) (j : Json) : Prop :=
  ∃ v, d.under name = [v] ∧ v.json? 1 = some j

variable {d : Draft} {names : List String} {name : String} {known : List (String × Draft)}

theorem isObject_of_gives {j : Json} (h : d.Gives name j) : d.isObject = true := by
  obtain ⟨v, hv, -⟩ := h
  cases d with
  | obj members => rfl
  | _ => cases hv

/-- Names that are read name the same members. -/
theorem map_filter_mapM_text? {members : List (List Char × Draft)} {named : List (String × Draft)}
    (h : members.mapM (fun m => do return (← text? m.1, m.2)) = some named) (name : String) :
    (named.filter fun m => m.1 == name).map (·.2) =
      (members.filter fun m => text? m.1 = some name).map (·.2) := by
  induction members generalizing named with
  | nil =>
    cases h
    rfl
  | cons m members ih =>
    simp only [List.mapM_cons, Option.bind_eq_bind, Option.bind_eq_some_iff] at h
    obtain ⟨m', ⟨text, htext, hm'⟩, rest, hrest, hnamed⟩ := h
    cases hm'
    cases hnamed
    have hih := ih hrest
    by_cases heq : text = name
    · simp [htext, heq, hih]
    · simp [htext, heq, hih]

theorem under_of_fields? (hd : d.isObject = true) (h : d.fields? names = some known)
    (hname : name ∈ names) : d.under name = (known.filter fun m => m.1 == name).map (·.2) := by
  cases d with
  | obj members =>
    simp only [fields?, Option.bind_eq_bind, Option.bind_eq_some_iff] at h
    obtain ⟨named, hnamed, hknown⟩ := h
    split at hknown
    · cases hknown
      rw [List.filter_filter]
      have hsame : (named.filter fun m => m.1 == name && names.contains m.1) =
          named.filter fun m => m.1 == name := by
        refine List.filter_congr fun m _ => ?_
        by_cases heq : m.1 = name
        · simp [heq, hname]
        · simp [heq]
      rw [hsame]
      exact (map_filter_mapM_text? hnamed name).symm
    · cases hknown
  | _ => cases hd

theorem nodup_of_fields? (hd : d.isObject = true) (h : d.fields? names = some known) :
    (known.map (·.1)).Nodup := by
  cases d with
  | obj members =>
    simp only [fields?, Option.bind_eq_bind, Option.bind_eq_some_iff] at h
    obtain ⟨named, -, hknown⟩ := h
    split at hknown
    · next hnodup =>
      cases hknown
      exact hnodup
    · cases hknown
  | _ => cases hd

/-- Where no name comes twice, a name stands for one member. -/
theorem filter_of_nodup {β : Type} {ms : List (String × β)} (hnodup : (ms.map (·.1)).Nodup)
    {m : String × β} (hm : m ∈ ms) : (ms.filter fun x => x.1 == m.1) = [m] := by
  induction ms with
  | nil => exact absurd hm List.not_mem_nil
  | cons x ms ih =>
    rw [List.map_cons, List.nodup_cons] at hnodup
    obtain ⟨hnew, hnodup⟩ := hnodup
    rcases List.mem_cons.mp hm with rfl | hm
    · have hrest : (ms.filter fun x => x.1 == m.1) = [] := by
        rw [List.filter_eq_nil_iff]
        intro y hy heq
        rw [beq_iff_eq] at heq
        exact hnew (heq ▸ List.mem_map_of_mem hy)
      simp [hrest]
    · have hne : x.1 ≠ m.1 := by
        intro heq
        exact hnew (heq ▸ List.mem_map_of_mem hm)
      simp [hne, ih hnodup hm]

/-- What is read of a member is the value of its draft. -/
theorem exists_mem_of_get? {fields : Fields} {j : Json}
    (h : known.mapM (fun m => do return (m.1, ← m.2.json? 1)) = some fields)
    (hget : fields.get? name = some j) : ∃ v, (name, v) ∈ known ∧ v.json? 1 = some j := by
  induction known generalizing fields with
  | nil =>
    cases h
    cases hget
  | cons m known ih =>
    simp only [List.mapM_cons, Option.bind_eq_bind, Option.bind_eq_some_iff] at h
    obtain ⟨m', ⟨value, hvalue, hm'⟩, rest, hrest, hfields⟩ := h
    cases hm'
    cases hfields
    by_cases heq : m.1 = name
    · have hj : value = j := by simpa [Fields.get?, heq] using hget
      subst heq hj
      exact ⟨m.2, List.mem_cons_self, hvalue⟩
    · have htail : Fields.get? rest name = some j := by
        simpa [Fields.get?, heq] using hget
      obtain ⟨v, hv, hj⟩ := ih hrest htail
      exact ⟨v, List.mem_cons_of_mem m hv, hj⟩

theorem gives_of_get? {fields : Fields} {j : Json} (hd : d.isObject = true)
    (hknown : d.fields? names = some known) (hname : name ∈ names)
    (hfields : known.mapM (fun m => do return (m.1, ← m.2.json? 1)) = some fields)
    (hget : fields.get? name = some j) : d.Gives name j := by
  obtain ⟨v, hv, hj⟩ := exists_mem_of_get? hfields hget
  refine ⟨v, ?_, hj⟩
  rw [under_of_fields? hd hknown hname, filter_of_nodup (nodup_of_fields? hd hknown) hv]
  rfl

/-- A record finds what an object gives. -/
theorem find?_of_gives {j : Json} (hknown : d.fields? names = some known) (hname : name ∈ names)
    (h : d.Gives name j) : ((known.find? (·.1 == name)).bind (·.2.json? 1)) = some j := by
  have hd := isObject_of_gives h
  obtain ⟨v, hv, hj⟩ := h
  rw [under_of_fields? hd hknown hname] at hv
  rw [← List.head?_filter]
  cases hfilter : known.filter (fun m => m.1 == name) with
  | nil =>
    rw [hfilter] at hv
    cases hv
  | cons m ms =>
    rw [hfilter, List.map_cons, List.cons.injEq] at hv
    simp [hv.1, hj]

end Json.Draft

/-! ## Claims -/

namespace Json

theorem eq_of_str? {j : Json} {s : String} (h : j.str? = some s) : j = .str s := by
  cases j <;> cases h
  rfl

theorem eq_of_integer {range : Decimal.Range} {j : Json} {n : Int} (h : integer range j = some n) :
    j = .int n := by
  cases j with
  | int k =>
    rw [integer] at h
    split at h <;> cases h
    rfl
  | _ => cases h

theorem exists_of_uuid? {j : Json} {id : Uuid} (h : j.uuid? = some id) :
    ∃ s, j = .str s ∧ Uuid.ofText? s = some id := by
  cases j with
  | str s => exact ⟨s, rfl, h⟩
  | _ => cases h

/-- A record that is read from an object has the first member of each of its names. -/
theorem get?_of_fields? {names : List String} {name : String} {fields f : Fields}
    (h : (Json.obj fields).fields? names = some f) (hname : name ∈ names) :
    f.get? name = fields.get? name := by
  rw [fields?] at h
  split at h <;> cases h
  have hsame : (fun m : String × Json => decide (names.contains m.1 = true ∧ (m.1 == name) = true)) =
      fun m => m.1 == name := by
    funext m
    by_cases heq : m.1 = name
    · simp [heq, hname]
    · simp [heq]
  simp only [Fields.get?, List.find?_filter, hsame]

end Json

namespace Claims

open Json (Draft)

/-- An object says these claims: it gives each of the five under its name, once. The id may stand
in any of its forms. -/
structure SaidBy (c : Claims) (d : Draft) : Prop where
  id : ∃ s, d.Gives "jti" (.str s) ∧ Uuid.ofText? s = some c.id
  userId : d.Gives "sub" (.str c.userId)
  username : d.Gives "username" (.str c.username)
  issuedAt : d.Gives "iat" (.int c.issuedAt)
  expiresAt : d.Gives "exp" (.int c.expiresAt)

/-- Claims are what the members of their names say. -/
theorem get?_of_ofJson? {fields : Json.Fields} {c : Claims} (h : ofJson? (.obj fields) = some c) :
    (∃ j, fields.get? "jti" = some j ∧ j.uuid? = some c.id) ∧
    fields.get? "sub" = some (.str c.userId) ∧ fields.get? "username" = some (.str c.username) ∧
    fields.get? "iat" = some (.int c.issuedAt) ∧ fields.get? "exp" = some (.int c.expiresAt) := by
  simp only [ofJson?, Json.Fields.required, Option.bind_eq_bind, Option.bind_eq_some_iff] at h
  obtain ⟨f, hf, id, ⟨jid, hjid, hid⟩, user, ⟨juser, hjuser, huser⟩, username,
    ⟨jname, hjname, hname⟩, issued, ⟨jissued, hjissued, hissued⟩, expires,
    ⟨jexpires, hjexpires, hexpires⟩, hc⟩ := h
  cases hc
  rw [Json.get?_of_fields? hf (by decide)] at hjid hjuser hjname hjissued hjexpires
  rw [Json.eq_of_str? huser] at hjuser
  rw [Json.eq_of_str? hname] at hjname
  rw [Json.eq_of_integer hissued] at hjissued
  rw [Json.eq_of_integer hexpires] at hjexpires
  exact ⟨⟨jid, hjid, hid⟩, hjuser, hjname, hjissued, hjexpires⟩

theorem saidBy_of_claims? {d : Draft} {c : Claims} (hd : d.isObject = true)
    (h : SignedToken.claims? d = some c) : c.SaidBy d := by
  simp only [SignedToken.claims?, Option.bind_eq_bind, Option.bind_eq_some_iff] at h
  obtain ⟨known, hknown, fields, hfields, hc⟩ := h
  obtain ⟨⟨j, hj, hid⟩, huser, hname, hissued, hexpires⟩ := get?_of_ofJson? hc
  have hgives : ∀ name ∈ members, ∀ j, Json.Fields.get? fields name = some j → d.Gives name j :=
    fun name hin j hget => Draft.gives_of_get? hd hknown hin hfields hget
  obtain ⟨s, rfl, hs⟩ := Json.exists_of_uuid? hid
  exact ⟨⟨s, hgives "jti" (by decide) _ hj, hs⟩, hgives "sub" (by decide) _ huser,
    hgives "username" (by decide) _ hname, hgives "iat" (by decide) _ hissued,
    hgives "exp" (by decide) _ hexpires⟩

end Claims

/-! ## Headers -/

namespace Header

open Json (Draft)

/-- An algorithm is named by a text, or by an object that gives the name null. -/
def NamesHs256 (j : Json) : Prop := j = .str "HS256" ∨ j = .obj [("HS256", .null)]

/-- A header asks for HS256 under `alg`, or is the list of all ten members and asks for it in the
second place. -/
def AsksForHs256 (d : Draft) : Prop :=
  (∃ j, d.Gives "alg" j ∧ NamesHs256 j) ∨
  ∃ items, d = .arr items ∧ items.length = 10 ∧
    ∃ v ∈ items[1]?, ∃ j, v.json? 1 = some j ∧ NamesHs256 j

theorem namesHs256_of_caseName? {j : Json} (h : j.caseName? = some "HS256") : NamesHs256 j := by
  unfold Json.caseName? at h
  split at h <;> cases h
  · exact .inl rfl
  · exact .inr rfl

theorem asksForHs256_of_isAccepted {d : Draft} (h : isAccepted d = true) : AsksForHs256 d := by
  unfold isAccepted at h
  split at h
  · cases h
  next known hknown =>
  split at h
  · cases h
  next fields hfields =>
  simp only [Bool.and_eq_true, Option.any_eq_true] at h
  obtain ⟨⟨⟨⟨alg, halg, hname⟩, -⟩, -⟩, -⟩ := h
  rw [beq_iff_eq] at hname
  obtain ⟨j, hget, hcase⟩ := Option.bind_eq_some_iff.mp halg
  have hj : NamesHs256 j := namesHs256_of_caseName? (hcase.trans (congrArg some hname))
  cases d with
  | obj ms => exact .inl ⟨j, Draft.gives_of_get? rfl hknown (by decide) hfields hget, hj⟩
  | arr items =>
    right
    obtain ⟨v, hv, hvalue⟩ := Draft.exists_mem_of_get? hfields hget
    rw [Draft.fields?] at hknown
    split at hknown
    · next hlength =>
      cases hknown
      -- A list has its members in their order, and the algorithm is the second of them.
      obtain ⟨i, hi, hat⟩ := List.mem_iff_getElem.mp hv
      obtain ⟨halgorithm, hitem⟩ := Prod.mk.inj (List.getElem_zip.symm.trans hat)
      have hnames : ∀ i : Fin members.length, members.get i = "alg" → i.val = 1 := by decide
      have hsecond : i = 1 := hnames ⟨i, List.lt_length_left_of_zip hi⟩ halgorithm
      subst hsecond
      exact ⟨items, rfl, hlength, v, List.getElem?_eq_some_iff.mpr ⟨_, hitem⟩, j, hvalue, hj⟩
    · cases hknown
  | _ => cases hknown

end Header

namespace SignedToken

open Json (Draft)

variable {key : SigningKey} {now : Int} {p : Claims}

/-! ## Audiences -/

/-- An object names an audience if it gives a text or a list of texts. -/
def NamesAudience (d : Draft) : Prop :=
  (∃ s, d.Gives "aud" (.str s)) ∨ ∃ texts : List String, d.Gives "aud" (.arr (texts.map .str))

theorem hasAudience_of_namesAudience {d : Draft} {delivery : List (String × Draft)}
    (hdelivery : d.fields? deliveryMembers = some delivery) (h : NamesAudience d) :
    hasAudience delivery = true := by
  rcases h with ⟨s, hs⟩ | ⟨texts, htexts⟩
  · rw [hasAudience, Draft.find?_of_gives hdelivery (by decide) hs]
  · rw [hasAudience, Draft.find?_of_gives hdelivery (by decide) htexts]
    simp [Json.str?]

/-! ## Parts -/

/-- What is cut at its last dot was joined there. -/
theorem splitLast?_eq_some {cs message sig : List Char} (h : splitLast? cs = some (message, sig)) :
    cs = message ++ '.' :: sig ∧ '.' ∉ sig := by
  have hdot : '.' ∈ cs := by
    by_contra hno
    rw [splitLast?, if_neg hno] at h
    cases h
  obtain ⟨before, behind, hreverse, hlast⟩ :=
    List.eq_append_cons_of_mem (List.mem_reverse.mpr hdot)
  have hcs : cs = behind.reverse ++ '.' :: before.reverse := by
    rw [← List.reverse_reverse cs, hreverse]
    simp
  have hbefore : '.' ∉ before.reverse := fun hin => hlast (List.mem_reverse.mp hin)
  rw [hcs, splitLast?_append hbefore] at h
  obtain ⟨rfl, rfl⟩ := Prod.mk.inj (Option.some.inj h)
  exact ⟨hcs, hbefore⟩

theorem dot_notMem_of_decodePart? {part : List Char} {d : Draft} (h : decodePart? part = some d) :
    '.' ∉ part := by
  obtain ⟨bytes, hbytes, -⟩ := Option.bind_eq_some_iff.mp h
  exact Base64.dot_notMem_of_decode? hbytes

/-- A text that is cut at a dot can be cut in one way only, if no part before it holds a dot. -/
theorem append_dot_inj {a a' b b' : List Char} (ha : '.' ∉ a) (ha' : '.' ∉ a')
    (h : a ++ '.' :: b = a' ++ '.' :: b') : a = a' ∧ b = b' := by
  induction a generalizing a' with
  | nil =>
    cases a' with
    | nil => exact ⟨rfl, (List.cons.inj h).2⟩
    | cons c a' => exact absurd (List.cons.inj h).1 fun heq => ha' (heq ▸ List.mem_cons_self)
  | cons c a ih =>
    cases a' with
    | nil => exact absurd (List.cons.inj h).1 fun heq => ha (heq ▸ List.mem_cons_self)
    | cons c' a' =>
      obtain ⟨rfl, htail⟩ := List.cons.inj h
      obtain ⟨rfl, rfl⟩ := ih (fun hin => ha (List.mem_cons_of_mem c hin))
        (fun hin => ha' (List.mem_cons_of_mem c hin)) htail
      exact ⟨rfl, rfl⟩

/-! ## The token as a whole -/

theorem readClaims_eq_ok {part : List Char} (h : readClaims part now = .ok p) :
    ∃ d, decodePart? part = some d ∧ p.SaidBy d ∧ ¬NamesAudience d ∧ now ≤ p.expiresAt := by
  unfold readClaims at h
  split at h
  · cases h
  next d hd =>
  obtain ⟨hdecode, hobject⟩ := Option.filter_eq_some_iff.mp hd
  split at h
  · next claims delivery hclaims hdelivery =>
    split at h
    · cases h
    split at h
    · cases h
    next hexpired =>
    split at h
    · cases h
    next haudience =>
    cases h
    refine ⟨d, hdecode, Claims.saidBy_of_claims? hobject hclaims, ?_, ?_⟩
    · exact fun hnames => haudience (hasAudience_of_namesAudience hdelivery hnames)
    · simpa [Claims.isExpiredAt] using hexpired
  · cases h

theorem eq_ok_of_validate {c : Claims} (h : c.validate now = .ok ()) :
    c.id.isNil = false ∧ c.userId ≠ "" ∧ c.username ≠ "" := by
  unfold Claims.validate at h
  split at h
  · cases h
  split at h
  · cases h
  next hnamed =>
  simpa [not_or] using hnamed

/-- What a token of these three parts is, once it has been accepted at a point in time. -/
structure Authentic (key : SigningKey) (now : Int) (p : Claims) (head payload sig : List Char) :
    Prop where
  dotless : '.' ∉ head ∧ '.' ∉ payload ∧ '.' ∉ sig
  signed : sig = Base64.encode .url
    (Hmac.sha256 key.secret (Bytes.ofString (String.ofList (head ++ '.' :: payload))))
  asks : ∃ d, decodePart? head = some d ∧ Header.AsksForHs256 d
  tells : ∃ d, decodePart? payload = some d ∧ p.SaidBy d ∧ ¬NamesAudience d
  alive : now ≤ p.expiresAt
  named : p.id.isNil = false ∧ p.userId ≠ "" ∧ p.username ≠ ""

theorem exists_authentic {t : String} (h : verify key now t = .ok p) :
    ∃ head payload sig, t = String.ofList (head ++ '.' :: (payload ++ '.' :: sig)) ∧
      Authentic key now p head payload sig := by
  unfold verify verifyChars at h
  split at h
  · cases h
  next message sig hmessage =>
  split at h
  · cases h
  next head payload hhead =>
  split at h
  · cases h
  next haccepted =>
  split at h
  · cases h
  next hsig =>
  obtain ⟨hjoin, hdotsig⟩ := splitLast?_eq_some hmessage
  obtain ⟨rfl, hdotpayload⟩ := splitLast?_eq_some hhead
  cases hread : readClaims payload now with
  | error e =>
    rw [hread] at h
    cases h
  | ok claims =>
    rw [hread] at h
    change (do
      let _ ← claims.validate now
      return claims) = Except.ok p at h
    cases hvalid : claims.validate now with
    | error e =>
      rw [hvalid] at h
      cases h
    | ok _ =>
      rw [hvalid] at h
      cases h
      obtain ⟨d, hpayload, hsaid, hnobody, halive⟩ := readClaims_eq_ok hread
      rw [Bool.not_eq_true', Bool.not_eq_false] at haccepted
      obtain ⟨d', hd', haccepted⟩ := (Option.any_eq_true _ _).mp haccepted
      refine ⟨head, payload, sig, ?_, ?_⟩
      · rw [← List.cons_append, ← List.append_assoc, ← hjoin, String.ofList_toList]
      · exact {
          dotless := ⟨dot_notMem_of_decodePart? hd', hdotpayload, hdotsig⟩
          signed := not_not.mp hsig
          asks := ⟨d', hd', Header.asksForHs256_of_isAccepted haccepted⟩
          tells := ⟨d, hpayload, hsaid, hnobody⟩
          alive := halive
          named := eq_ok_of_validate hvalid }

/-- An accepted token has exactly three parts. It was signed under the key, it asks for HS256, and
its second part says the claims that are returned, which are alive and name a token and a user, and
names no audience. With the same two parts in front, no other signature is ever accepted. -/
theorem authentic_of_verify {t : String} (h : verify key now t = .ok p) :
    ∃ head payload sig, t = String.ofList (head ++ '.' :: (payload ++ '.' :: sig)) ∧
      Authentic key now p head payload sig ∧
      ∀ (sig' : List Char) (now' : Int) (p' : Claims),
        verify key now' (String.ofList (head ++ '.' :: (payload ++ '.' :: sig'))) = .ok p' →
        sig' = sig := by
  obtain ⟨head, payload, sig, ht, hauthentic⟩ := exists_authentic h
  refine ⟨head, payload, sig, ht, hauthentic, ?_⟩
  intro sig' now' p' h'
  obtain ⟨head', payload', sig'', ht', hauthentic'⟩ := exists_authentic h'
  obtain ⟨hhead, hpayload, -⟩ := hauthentic.dotless
  obtain ⟨hhead', hpayload', -⟩ := hauthentic'.dotless
  obtain ⟨rfl, htail⟩ := append_dot_inj hhead hhead' (String.ofList_injective ht')
  obtain ⟨rfl, rfl⟩ := append_dot_inj hpayload hpayload' htail
  rw [hauthentic.signed, hauthentic'.signed]

/-- A new token is accepted, so all this is true of it. -/
theorem authentic_of_verify_issue :
    verify ⟨List.replicate 32 107, by decide⟩ 1735693200
        (issue ⟨List.replicate 32 107, by decide⟩ ⟨⟨1⟩, "42", "ada", 1735689600, 1735693200⟩) =
      .ok ⟨⟨1⟩, "42", "ada", 1735689600, 1735693200⟩ ∧
    ∃ head payload sig,
      issue ⟨List.replicate 32 107, by decide⟩ ⟨⟨1⟩, "42", "ada", 1735689600, 1735693200⟩ =
        String.ofList (head ++ '.' :: (payload ++ '.' :: sig)) ∧
      Authentic ⟨List.replicate 32 107, by decide⟩ 1735693200
        ⟨⟨1⟩, "42", "ada", 1735689600, 1735693200⟩ head payload sig ∧
      ∀ (sig' : List Char) (now' : Int) (p' : Claims),
        verify ⟨List.replicate 32 107, by decide⟩ now'
            (String.ofList (head ++ '.' :: (payload ++ '.' :: sig'))) = .ok p' →
        sig' = sig := by
  have h : verify ⟨List.replicate 32 107, by decide⟩ 1735693200
        (issue ⟨List.replicate 32 107, by decide⟩ ⟨⟨1⟩, "42", "ada", 1735689600, 1735693200⟩) =
      .ok ⟨⟨1⟩, "42", "ada", 1735689600, 1735693200⟩ :=
    verify_issue ⟨by decide, by decide⟩ (by decide) (by decide) (by decide) (by decide) (by decide)
  exact ⟨h, authentic_of_verify h⟩

/-- A header in its list form, which names its algorithm by an object. -/
def listHeader : Json := .arr
  [.str "JWT", .obj [("HS256", .null)], .null, .null, .null, .null, .null, .null, .null, .null]

/-- Claims with an audience that is a list, though not of texts alone. -/
def mixedAudience (c : Claims) : Json := .obj (c.fields ++ [("aud", .arr [.str "a", .int 5])])

theorem isAccepted_listHeader : Header.isAccepted (Draft.ofJson listHeader) = true := by
  have hfields : listHeader.fields? Header.members = some (Header.members.zip
      [.str "JWT", .obj [("HS256", .null)], .null, .null, .null, .null, .null, .null, .null, .null]) :=
    rfl
  have hread := Draft.mapM_json?_ofMember
    (Header.members.zip
      [.str "JWT", .obj [("HS256", .null)], .null, .null, .null, .null, .null, .null, .null, .null])
    (by simp [Header.members, Json.isLegible, Json.membersAreLegible, Draft.greatestDepth])
  simp only [Header.isAccepted, Draft.fields?_ofJson, hfields, Option.map_some, hread]
  decide

theorem readClaims_mixedAudience {c : Claims} (h : c.TimesFit) (hnow : now ≤ c.expiresAt)
    (hend : 0 ≤ c.expiresAt) : readClaims (encodePart (mixedAudience c).text) now = .ok c := by
  have hmembers : (mixedAudience c).fields? Claims.members = some c.fields := rfl
  have hdelivery : (mixedAudience c).fields? deliveryMembers =
      some [("aud", .arr [.str "a", .int 5])] := rfl
  have hknown : (Draft.ofJson (mixedAudience c)).fields? Claims.members =
      some (c.fields.map Draft.ofMember) := by
    rw [Draft.fields?_ofJson, hmembers]
    rfl
  have hothers : (Draft.ofJson (mixedAudience c)).fields? deliveryMembers =
      some [("aud", Draft.ofJson (.arr [.str "a", .int 5]))] := by
    rw [Draft.fields?_ofJson, hdelivery]
    rfl
  refine readClaims_eq (decodePart?_encodePart _) rfl (Claims.claims?_of_fields? h hknown) hothers
    ?_ ?_ hnow hend
  · have hvalue := Draft.value_ofJson (Draft.greatestDepth - 1) (.arr [.str "a", .int 5]) (by decide)
    simp [deliveryOk, hvalue, Json.Reading.isStuck]
  · have hvalue : (Draft.ofJson (.arr [.str "a", .int 5])).json? 1 = some (.arr [.str "a", .int 5]) :=
      Draft.json?_ofJson (by decide)
    simp [hasAudience, hvalue, Json.str?]

theorem gives_mixedAudience (c : Claims) :
    (Draft.ofJson (mixedAudience c)).Gives "aud" (.arr [.str "a", .int 5]) := by
  have hdelivery : (Draft.ofJson (mixedAudience c)).fields? deliveryMembers =
      some [("aud", Draft.ofJson (.arr [.str "a", .int 5]))] := by
    rw [Draft.fields?_ofJson]
    rfl
  refine ⟨Draft.ofJson (.arr [.str "a", .int 5]), ?_, Draft.json?_ofJson (by decide)⟩
  rw [Draft.under_of_fields? rfl hdelivery (by decide)]
  rfl

/-- The parts of a token with such a header and such an audience, but for the signature. -/
def listMessage (c : Claims) : List Char :=
  encodePart listHeader.text ++ '.' :: encodePart (mixedAudience c).text

theorem verify_listMessage {c : Claims} (h : c.TimesFit) (hid : c.id.isNil = false)
    (huser : c.userId ≠ "") (hname : c.username ≠ "") (hnow : now ≤ c.expiresAt)
    (hend : 0 ≤ c.expiresAt) :
    verify key now (String.ofList (listMessage c ++ '.' :: signature key (listMessage c))) =
      .ok c := by
  have hhead : (decodePart? (encodePart listHeader.text)).any Header.isAccepted = true := by
    rw [decodePart?_encodePart]
    exact isAccepted_listHeader
  exact verify_signed hhead (dot_notMem_encodePart _) (readClaims_mixedAudience h hnow hend)
    (validate_eq_ok hid huser hname hnow)

/-- The parts of a token are found wherever it is cut. -/
theorem parts_unique {head payload sig head' payload' sig' : List Char} (hhead : '.' ∉ head)
    (hpayload : '.' ∉ payload) (hhead' : '.' ∉ head') (hpayload' : '.' ∉ payload')
    (h : head ++ '.' :: payload ++ '.' :: sig = head' ++ '.' :: (payload' ++ '.' :: sig')) :
    head' = head ∧ payload' = payload := by
  rw [List.append_assoc, List.cons_append] at h
  obtain ⟨rfl, htail⟩ := append_dot_inj hhead hhead' h
  exact ⟨rfl, (append_dot_inj hpayload hpayload' htail).1.symm⟩

/-- The header of such a token is a list, with an object for its algorithm, and its audience is a
list. -/
theorem parts_listMessage {c : Claims} {head payload sig sig' : List Char} (hhead : '.' ∉ head)
    (hpayload : '.' ∉ payload)
    (hjoin : listMessage c ++ '.' :: sig = head ++ '.' :: (payload ++ '.' :: sig')) :
    (¬∃ d, decodePart? head = some d ∧ d.isObject = true) ∧
    (∃ items v, decodePart? head = some (.arr items) ∧ items[1]? = some v ∧
      v.json? 1 = some (.obj [("HS256", .null)])) ∧
    ∃ d, decodePart? payload = some d ∧ d.Gives "aud" (.arr [.str "a", .int 5]) := by
  unfold listMessage at hjoin
  have hparts := parts_unique (dot_notMem_encodePart _) (dot_notMem_encodePart _) hhead hpayload hjoin
  rw [hparts.1, hparts.2]
  have hlist : decodePart? (encodePart listHeader.text) = some (Draft.ofJson listHeader) :=
    decodePart?_encodePart listHeader
  have halg : (Draft.ofJson (.obj [("HS256", .null)])).json? 1 = some (.obj [("HS256", .null)]) :=
    Draft.json?_ofJson (by decide)
  refine ⟨?_, ⟨_, _, hlist, rfl, halg⟩,
    Draft.ofJson (mixedAudience c), decodePart?_encodePart _, gives_mixedAudience c⟩
  rintro ⟨d, hd, hobject⟩
  have hd' : Draft.ofJson listHeader = d := Option.some.inj (hlist.symm.trans hd)
  rw [← hd'] at hobject
  exact Bool.false_ne_true hobject

/-- A token is accepted though its header is no object and its claims name a list as audience. -/
theorem verify_listHeader_mixedAudience :
    verify ⟨List.replicate 32 107, by decide⟩ 1735693200
        (String.ofList (listMessage ⟨⟨1⟩, "42", "ada", 1735689600, 1735693200⟩ ++ '.' ::
          signature ⟨List.replicate 32 107, by decide⟩
            (listMessage ⟨⟨1⟩, "42", "ada", 1735689600, 1735693200⟩))) =
      .ok ⟨⟨1⟩, "42", "ada", 1735689600, 1735693200⟩ ∧
    ∀ head payload sig, '.' ∉ head → '.' ∉ payload →
      listMessage ⟨⟨1⟩, "42", "ada", 1735689600, 1735693200⟩ ++ '.' ::
          signature ⟨List.replicate 32 107, by decide⟩
            (listMessage ⟨⟨1⟩, "42", "ada", 1735689600, 1735693200⟩) =
        head ++ '.' :: (payload ++ '.' :: sig) →
      (¬∃ d, decodePart? head = some d ∧ d.isObject = true) ∧
      (∃ items v, decodePart? head = some (.arr items) ∧ items[1]? = some v ∧
        v.json? 1 = some (.obj [("HS256", .null)])) ∧
      ∃ d, decodePart? payload = some d ∧ d.Gives "aud" (.arr [.str "a", .int 5]) := by
  constructor
  · exact verify_listMessage ⟨by decide, by decide⟩ (by decide) (by decide) (by decide) (by decide)
      (by decide)
  · intro head payload sig hhead hpayload hjoin
    exact parts_listMessage hhead hpayload hjoin

end SignedToken

end SignIn
