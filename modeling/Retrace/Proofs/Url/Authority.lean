import Mathlib
import Retrace.Proofs.Url.Host

/-!
# Authorities read back

What is read behind the two slashes of a URL of the web can be read again
(`isSound_of_afterSlashes?`): the user's name and password are escaped, the host is one that was
read, and the port is a number that does not go with the scheme anyway. The text of such an
authority, with a path, a query or a fragment behind it, is read as the authority
(`afterSlashes?_text`).
-/

namespace Retrace

namespace Url

variable {scheme text rest : List Char} {a : Authority} {c : Char} {u : Url}

/-! ### Escaped texts -/

/-- A class of characters that an escaped text may have: those of escapes are among them, and all of
them are visible ASCII characters. -/
structure IsPlainClass (plain : Char → Bool) : Prop where
  sign : ∀ c ∈ Percent.escapeSigns, plain c
  visible : ∀ c, plain c → 0x20 < c.toNat ∧ c.toNat < 0x7F

/-- The characters of an escaped text are in the class. -/
lemma IsPlainClass.of_encodeText {plain : Char → Bool} (h : IsPlainClass plain)
    (hc : c ∈ Percent.encodeText plain text) : plain c := by
  rcases Percent.mem_encodeText hc with ⟨-, -, hplain⟩ | hsign
  · exact hplain
  · exact h.sign c hsign

/-- A text of the class is not escaped again. -/
lemma IsPlainClass.encodeText_eq {plain : Char → Bool} (h : IsPlainClass plain)
    (htext : ∀ c ∈ text, plain c) : Percent.encodeText plain text = text := by
  apply Percent.encodeText_eq_self
  intro c hc
  have hvisible := h.visible c (htext c hc)
  exact ⟨by omega, htext c hc⟩

/-- The characters that stand in a fragment. -/
lemma isPlainClass_fragment : IsPlainClass plainInFragment where
  sign := List.all_eq_true.mp (by decide)
  visible c h := by
    simp only [plainInFragment, Bool.and_eq_true, decide_eq_true_eq] at h
    exact h.1.1

/-- The characters that stand in a path. -/
lemma isPlainClass_path : IsPlainClass plainInPath where
  sign := List.all_eq_true.mp (by decide)
  visible c h := isPlainClass_fragment.visible c (Bool.and_eq_true_iff.mp h).1

/-- The characters that stand in a user's name or password. -/
lemma isPlainClass_user : IsPlainClass plainInUser where
  sign := List.all_eq_true.mp (by decide)
  visible c h := isPlainClass_path.visible c (Bool.and_eq_true_iff.mp h).1

/-- The characters that stand in a query of the web. -/
lemma isPlainClass_query : IsPlainClass (plainInQuery .web) where
  sign := List.all_eq_true.mp (by decide)
  visible c h := by
    simp only [plainInQuery, Bool.and_eq_true, decide_eq_true_eq] at h
    exact h.1.1

/-! ### Authorities that can be read again -/

/-- An authority that can be read again behind a scheme. -/
structure Authority.IsSound (scheme : List Char) (a : Authority) : Prop where
  username : ∀ c ∈ a.username, plainInUser c
  password : ∀ c ∈ a.password, plainInUser c
  host : a.host.IsSound
  port : ∀ port ∈ a.port, port ≤ 65535 ∧ defaultPort scheme ≠ some port

/-- What comes after an authority: nothing, a path, a query or a fragment. -/
def EndsAuthority (rest : List Char) : Prop :=
  ∀ c ∈ rest.head?, isSlash .web c ∨ endsPath c

/-- The characters of the user's name and password. -/
lemma isHostChar_of_plainInUser (h : plainInUser c) : IsHostChar c ∧ c ≠ ':' := by
  have hne : ∀ d, plainInUser d = false → c ≠ d := fun d hd =>
    ne_of_apply_ne plainInUser (by simp [h, hd])
  refine ⟨⟨(isPlainClass_user.visible c h).1, hne _ (by decide), ?_, ?_⟩, hne _ (by decide)⟩
  · simp [isSlash, hne '/' (by decide), hne '\\' (by decide)]
  · simp [endsPath, hne '?' (by decide), hne '#' (by decide)]

/-! ### Ports -/

/-- Further digits only let a value grow. -/
lemma le_ofDigitChars (digits : List Char) (value : ℕ) :
    value ≤ Nat.ofDigitChars 10 digits value := by
  induction digits generalizing value with
  | nil => exact le_rfl
  | cons c digits ih =>
    rw [Nat.ofDigitChars_cons]
    have hnext := ih (10 * value + (c.toNat - '0'.toNat))
    omega

/-- Digits that keep within the bound of ports are all taken in. -/
lemma readPort_append {value : ℕ} (digits : List Char)
    (hdigits : ∀ c ∈ digits, '0' ≤ c ∧ c ≤ '9')
    (hbound : Nat.ofDigitChars 10 digits value ≤ 65535) :
    readPort value (digits ++ rest) = readPort (Nat.ofDigitChars 10 digits value) rest := by
  induction digits generalizing value with
  | nil => rfl
  | cons c digits ih =>
    obtain ⟨hc, hdigits⟩ := List.forall_mem_cons.mp hdigits
    rw [Nat.ofDigitChars_cons] at hbound ⊢
    have hvalue : value * 10 + (c.toNat - 48) = 10 * value + (c.toNat - '0'.toNat) := by
      have hzero : '0'.toNat = 48 := rfl
      omega
    have hfits : value * 10 + (c.toNat - 48) ≤ 65535 := by
      rw [hvalue]
      exact (le_ofDigitChars digits _).trans hbound
    rw [List.cons_append, readPort, if_pos (by simpa using hc)]
    simp only [if_pos hfits]
    rw [hvalue, ih hdigits hbound]

/-- The text of a port is read as the port. -/
lemma port?_text {port : ℕ} (hbound : port ≤ 65535) (hdefault : defaultPort scheme ≠ some port)
    (hrest : EndsAuthority rest) :
    port? scheme (Nat.toDigits 10 port ++ rest) = .ok (some port, rest) := by
  have hvalue : Nat.ofDigitChars 10 (Nat.toDigits 10 port) 0 = port :=
    Nat.ofDigitChars_toDigits (by decide) (by decide)
  have hdigits : ∀ c ∈ Nat.toDigits 10 port, '0' ≤ c ∧ c ≤ '9' := fun c hc =>
    ⟨(Address.decimal_plain hc).1, (Address.decimal_plain hc).2.1⟩
  have hread : readPort 0 (Nat.toDigits 10 port ++ rest) = .ok (port, rest) := by
    rw [readPort_append _ hdigits (by rwa [hvalue]), hvalue]
    cases rest with
    | nil => rfl
    | cons c rest =>
      have hc : isEitherSlash c || endsPath c := by
        simpa [isSlash, isEitherSlash, Kind.isSpecial] using hrest c rfl
      have hdigit : ¬ ('0' ≤ c && c ≤ '9') := by
        simp only [isEitherSlash, endsPath, Bool.or_eq_true, decide_eq_true_eq] at hc
        rcases hc with (rfl | rfl) | (rfl | rfl) <;> decide
      rw [readPort, if_neg hdigit, if_pos hc]
  unfold port?
  rw [hread]
  simp [hdefault]

/-- The value that is read keeps within the bound. -/
lemma readPort_le {start value : ℕ} (hstart : start ≤ 65535)
    (h : readPort start text = .ok (value, rest)) : value ≤ 65535 := by
  induction text generalizing start with
  | nil =>
    cases h
    exact hstart
  | cons c text ih =>
    rw [readPort] at h
    split at h
    · dsimp only at h
      split at h
      · next hnext => exact ih hnext h
      · cases h
    · split at h
      · cases h
        exact hstart
      · cases h

/-- A port that is read keeps within the bound, and it is not the one that goes with the scheme. -/
lemma port?_bound {port : ℕ} (h : port? scheme text = .ok (some port, rest)) :
    port ≤ 65535 ∧ defaultPort scheme ≠ some port := by
  unfold port? at h
  split at h
  · cases h
  · next value after hvalue =>
    split at h
    · cases h
    · next hkept =>
      cases h
      simp only [Bool.or_eq_true, decide_eq_true_eq, not_or] at hkept
      exact ⟨readPort_le (Nat.zero_le _) hvalue, hkept.2⟩

/-! ### Hosts and ports -/

/-- What follows a host is a port or what comes after the authority. -/
lemma endsHost_portText (port : Option ℕ) (hrest : EndsAuthority rest) :
    EndsHost (portText port ++ rest) := by
  intro c hc
  cases port with
  | none => exact .inr (hrest c hc)
  | some port => exact .inl (Option.some.inj hc).symm

/-- The text of a host and a port is read as the host and the port. -/
lemma hostAndPort?_text (hkind : Kind.ofScheme scheme = .web) (h : a.IsSound scheme)
    (hrest : EndsAuthority rest) :
    hostAndPort? scheme (a.host.text ++ (portText a.port ++ rest)) = .ok (a.host, a.port, rest) := by
  have hspan := spanHost_text h.host (endsHost_portText a.port hrest)
  have hne : a.host.text.isEmpty = false := by
    simpa using h.host.text_ne_nil
  have hhost := webHost?_text h.host
  unfold hostAndPort?
  simp only [hkind, hspan, hne, hhost, Kind.isSpecial, bind, Except.bind, pure, Except.pure,
    Bool.and_false, Bool.false_eq_true, if_false, if_true]
  cases hport : a.port with
  | none =>
    have hcolon : ∀ digits, rest ≠ ':' :: digits := by
      rintro digits rfl
      have := hrest ':' rfl
      revert this
      decide
    simp only [portText, List.nil_append]
  | some port =>
    obtain ⟨hbound, hdefault⟩ := h.port port hport
    simp only [portText, List.cons_append, port?_text hbound hdefault hrest]

/-- A host and a port that are read can be read again. -/
lemma isSound_of_hostAndPort? {host : Host} {port : Option ℕ}
    (hkind : Kind.ofScheme scheme = .web)
    (h : hostAndPort? scheme text = .ok (host, port, rest)) :
    host.IsSound ∧ ∀ p ∈ port, p ≤ 65535 ∧ defaultPort scheme ≠ some p := by
  unfold hostAndPort? at h
  simp only [hkind, Kind.isSpecial, bind, Except.bind, pure, Except.pure, throw, throwThe,
    MonadExceptOf.throw, if_true] at h
  split at h
  · cases h
  · split at h
    · cases h
    · next host' hhost =>
      have hsound := isSound_of_webHost? hhost
      split at h
      · split at h
        · cases h
        · split at h
          · cases h
          · next read hport =>
            obtain ⟨port', rest'⟩ := read
            cases h
            refine ⟨hsound, ?_⟩
            rintro p ⟨⟩
            exact port?_bound hport
      · cases h
        exact ⟨hsound, by simp⟩

/-! ### The user and the authority -/

/-- The text between the two slashes and the host, without the mark at its end. -/
def Authority.info (a : Authority) : List Char :=
  a.username ++ if a.password.isEmpty then [] else ':' :: a.password

/-- The text of a user, with the mark at its end, if there is one. -/
lemma Authority.userText_eq (a : Authority) :
    a.userText = if a.username.isEmpty && a.password.isEmpty then [] else a.info ++ ['@'] := rfl

/-- The text of an authority stands in front of the path. -/
lemma beforePath_append (htext : ∀ c ∈ text, IsHostChar c ∨ c = '@') (hrest : EndsAuthority rest) :
    beforePath .web (text ++ rest) = text := by
  have hstop : ∀ c, (!(c = '/' || ((Kind.web).isSpecial && c = '\\') || endsPath c)) =
      !(isSlash .web c || endsPath c) := fun c => rfl
  unfold beforePath
  simp only [hstop]
  rw [List.takeWhile_append_of_pos]
  · cases rest with
    | nil => simp
    | cons c rest =>
      have hc : (isSlash .web c || endsPath c) = true := by simpa using hrest c rfl
      rw [List.takeWhile_cons, hc]
      simp
  · intro c hc
    rcases htext c hc with hchar | rfl
    · simp [hchar.not_slash, hchar.not_end]
    · rfl

/-- The characters of a user's name and password. -/
lemma Authority.IsSound.isHostChar_info (h : a.IsSound scheme) (hc : c ∈ a.info) :
    IsHostChar c := by
  unfold Authority.info at hc
  rcases List.mem_append.mp hc with hc | hc
  · exact (isHostChar_of_plainInUser (h.username c hc)).1
  · split at hc
    · cases hc
    · rcases List.mem_cons.mp hc with rfl | hc
      · decide
      · exact (isHostChar_of_plainInUser (h.password c hc)).1

/-- The text of a host and its port. -/
def Authority.hostText (a : Authority) : List Char :=
  a.host.text ++ portText a.port

/-- The characters of a host and its port. -/
lemma Authority.IsSound.isHostChar_hostText (h : a.IsSound scheme) (hc : c ∈ a.hostText) :
    IsHostChar c := by
  have hdigit : ∀ d < 10, IsHostChar (Nat.digitChar d) := by decide
  unfold Authority.hostText at hc
  rcases List.mem_append.mp hc with hc | hc
  · exact h.host.mem_text hc
  · unfold portText at hc
    split at hc
    · cases hc
    · rcases List.mem_cons.mp hc with rfl | hc
      · decide
      · obtain ⟨d, hd, rfl⟩ := Address.mem_toDigits (by decide) (by decide) hc
        exact hdigit d hd

/-- The text of an authority is that of the user and that of the host with its port. -/
lemma Authority.text_eq (a : Authority) : a.text = a.userText ++ a.hostText := by
  simp [Authority.text, Authority.hostText]

/-- The characters of the text of an authority. -/
lemma Authority.IsSound.mem_text (h : a.IsSound scheme) (hc : c ∈ a.text) :
    IsHostChar c ∨ c = '@' := by
  rw [Authority.text_eq, Authority.userText_eq] at hc
  rcases List.mem_append.mp hc with hc | hc
  · split at hc
    · cases hc
    · rcases List.mem_append.mp hc with hc | hc
      · exact .inl (h.isHostChar_info hc)
      · exact .inr (List.mem_singleton.mp hc)
  · exact .inl (h.isHostChar_hostText hc)

/-- The text of an authority is not empty, as its host has a text. -/
lemma Authority.IsSound.text_ne_nil (h : a.IsSound scheme) : a.text ≠ [] := by
  rw [Authority.text_eq, Authority.hostText]
  simp [h.host.text_ne_nil]

/-- The name and the password are told apart by the first colon. -/
lemma Authority.IsSound.span_info (h : a.IsSound scheme) :
    a.info.takeWhile (· ≠ ':') = a.username ∧
      (a.info.dropWhile (· ≠ ':')).drop 1 = a.password := by
  have hpos : ∀ c ∈ a.username, decide (c ≠ ':') = true := fun c hc =>
    decide_eq_true (isHostChar_of_plainInUser (h.username c hc)).2
  unfold Authority.info
  rw [List.takeWhile_append_of_pos hpos, List.dropWhile_append_of_pos hpos]
  split
  · next hpassword => simp [List.isEmpty_iff.mp hpassword]
  · simp

/-- The host is what comes behind the last at sign. -/
lemma Authority.IsSound.behind_info (h : a.IsSound scheme) :
    ((a.info ++ '@' :: a.hostText).reverse.takeWhile (· ≠ '@')).reverse = a.hostText := by
  have hpos : ∀ c ∈ a.hostText.reverse, decide (c ≠ '@') = true := fun c hc =>
    decide_eq_true (h.isHostChar_hostText (List.mem_reverse.mp hc)).ne_at
  rw [List.reverse_append, List.reverse_cons, List.append_assoc, List.takeWhile_append_of_pos hpos]
  simp

/-- Where no user is named, nothing is read but the host. -/
lemma user?_hostText (h : a.IsSound scheme) (hrest : EndsAuthority rest) :
    user? .web (a.hostText ++ rest) = .ok (([], []), a.hostText ++ rest) := by
  have hfront : beforePath .web (a.hostText ++ rest) = a.hostText :=
    beforePath_append (fun c hc => .inl (h.isHostChar_hostText hc)) hrest
  have hmark : a.hostText.contains '@' = false := by
    rw [List.contains_eq_mem, decide_eq_false_iff_not]
    exact fun hmem => (h.isHostChar_hostText hmem).ne_at rfl
  unfold user?
  simp only [hfront, hmark, Bool.false_eq_true, if_false]

/-- Where a user is named, the name and the password are read up to the host. -/
lemma user?_info (h : a.IsSound scheme) (hne : a.info.isEmpty = false)
    (hrest : EndsAuthority rest) :
    user? .web (a.info ++ '@' :: (a.hostText ++ rest)) =
      .ok ((a.username, a.password), a.hostText ++ rest) := by
  have htext : ∀ c ∈ a.info ++ '@' :: a.hostText, IsHostChar c ∨ c = '@' := by
    intro c hc
    rcases List.mem_append.mp hc with hc | hc
    · exact .inl (h.isHostChar_info hc)
    · rcases List.mem_cons.mp hc with hc | hc
      · exact .inr hc
      · exact .inl (h.isHostChar_hostText hc)
  have hfront : beforePath .web (a.info ++ '@' :: (a.hostText ++ rest)) =
      a.info ++ '@' :: a.hostText := by
    have happend := beforePath_append htext hrest
    rwa [List.append_assoc, List.cons_append] at happend
  have hmark : (a.info ++ '@' :: a.hostText).contains '@' = true := by simp
  have hlength : (a.info ++ '@' :: a.hostText).length - a.hostText.length - 1 = a.info.length := by
    rw [List.length_append, List.length_cons]
    omega
  have hinfo : (a.info ++ '@' :: a.hostText).take a.info.length = a.info := List.take_left
  have hdrop : (a.info ++ '@' :: (a.hostText ++ rest)).drop (a.info.length + 1) =
      a.hostText ++ rest := by
    rw [List.append_cons, List.drop_left' (by simp)]
  have husername := isPlainClass_user.encodeText_eq h.username
  have hpassword := isPlainClass_user.encodeText_eq h.password
  unfold user?
  simp only [hfront, hmark, h.behind_info, hlength, hinfo, hdrop, hne, h.span_info.1,
    h.span_info.2, husername, hpassword, if_true, Bool.false_eq_true, if_false]

/-- The user's name and password are read up to the host. -/
lemma user?_text (h : a.IsSound scheme) (hrest : EndsAuthority rest) :
    user? .web (a.userText ++ (a.hostText ++ rest)) =
      .ok ((a.username, a.password), a.hostText ++ rest) := by
  by_cases hnone : a.username.isEmpty && a.password.isEmpty
  · rw [Authority.userText_eq, if_pos hnone, List.nil_append, user?_hostText h hrest]
    rw [Bool.and_eq_true, List.isEmpty_iff, List.isEmpty_iff] at hnone
    rw [hnone.1, hnone.2]
  · have hne : a.info.isEmpty = false := by
      unfold Authority.info
      cases hpassword : a.password <;> simp_all
    rw [Authority.userText_eq, if_neg hnone, List.append_assoc, List.singleton_append,
      user?_info h hne hrest]

/-- What is read of the user is escaped. -/
lemma plain_of_user? {kind : Kind} {username password : List Char}
    (h : user? kind text = .ok ((username, password), rest)) :
    (∀ c ∈ username, plainInUser c) ∧ ∀ c ∈ password, plainInUser c := by
  unfold user? at h
  dsimp only at h
  split at h
  · split at h
    · split at h
      · split at h
        · cases h
        · cases h
          simp
      · cases h
        simp
    · cases h
      exact ⟨fun c hc => isPlainClass_user.of_encodeText hc,
        fun c hc => isPlainClass_user.of_encodeText hc⟩
  · cases h
    simp

/-- **Authorities read back.** The text of an authority with something behind it is read as the
authority. -/
theorem afterSlashes?_text (hkind : Kind.ofScheme scheme = .web) (h : a.IsSound scheme)
    (hrest : EndsAuthority rest) :
    afterSlashes? scheme (a.text ++ rest) =
      .ok (finish scheme (some a) (.segments (pathAfterAuthority .web rest).1)
        (pathAfterAuthority .web rest).2) := by
  have htext : a.text ++ rest = a.userText ++ (a.hostText ++ rest) := by
    rw [Authority.text_eq, List.append_assoc]
  have hhost : a.host ≠ .domain [] := by
    intro hnone
    have hne := h.host.text_ne_nil
    rw [hnone] at hne
    exact hne rfl
  have hread : hostAndPort? scheme (a.hostText ++ rest) = .ok (a.host, a.port, rest) := by
    rw [Authority.hostText, List.append_assoc]
    exact hostAndPort?_text hkind h hrest
  unfold afterSlashes?
  rw [htext]
  simp only [hkind, user?_text h hrest, hread, bind, Except.bind, pure,
    Except.pure, hhost, decide_false, Bool.false_and, Bool.false_eq_true, if_false]

/-- An authority that is read can be read again. -/
lemma isSound_of_afterSlashes? (hkind : Kind.ofScheme scheme = .web)
    (h : afterSlashes? scheme text = .ok u) :
    ∃ a rest, a.IsSound scheme ∧ u = finish scheme (some a)
      (.segments (pathAfterAuthority .web rest).1) (pathAfterAuthority .web rest).2 := by
  unfold afterSlashes? at h
  simp only [hkind, bind, Except.bind, pure, Except.pure, throw, throwThe,
    MonadExceptOf.throw] at h
  split at h
  · cases h
  · next read huser =>
    obtain ⟨⟨username, password⟩, rest⟩ := read
    split at h
    · cases h
    · next read hhost =>
      obtain ⟨host, port, rest'⟩ := read
      split at h
      · cases h
      · cases h
        obtain ⟨husername, hpassword⟩ := plain_of_user? huser
        obtain ⟨hsound, hport⟩ := isSound_of_hostAndPort? hkind hhost
        exact ⟨⟨username, password, host, port⟩, rest', ⟨husername, hpassword, hsound, hport⟩, rfl⟩

end Url

end Retrace
