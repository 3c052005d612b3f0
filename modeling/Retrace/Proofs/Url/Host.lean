import Mathlib
import Retrace.Proofs.Text.Percent
import Retrace.Proofs.Text.Utf8
import Retrace.Proofs.Url.Address
import Retrace.Proofs.Url.Domain
import Retrace.Url.Parser

/-!
# Hosts read back

The text of a host of the web is read as the host (`webHost?_text`). It stands out from what comes
after it in a URL, a port or a path, because none of its characters ends a host, except that an
address in brackets has colons (`spanHost_text`).
-/

namespace Retrace

namespace Percent

/-- Bytes without a percent sign stand for themselves. -/
lemma decode_of_not_mem {bytes : Bytes} (h : sign ∉ bytes) : decode bytes = bytes := by
  have hspells : Spells (fun b => b ≠ sign) bytes bytes := by
    induction bytes with
    | nil => exact .nil
    | cons b bytes ih =>
      rw [List.mem_cons, not_or] at h
      exact .plain (decide_eq_true (Ne.symm h.1)) (ih h.2)
  exact hspells.decode_eq (by simp)

end Percent

namespace Url

variable {text name rest : List Char} {host : Host} {kind : Kind} {c : Char} {address : ℕ}
  {pieces : List ℕ}

/-! ### Names of digits -/

namespace Domain

/-- The digits and the full stop. -/
def IsNumeric (c : Char) : Prop :=
  c = '.' ∨ '0' ≤ c ∧ c ≤ '9'

/-- The digits and the full stop by their code points. -/
lemma IsNumeric.toNat (h : IsNumeric c) : c = '.' ∨ 48 ≤ c.toNat ∧ c.toNat ≤ 57 := by
  rcases h with h | ⟨hlow, hhigh⟩
  · exact .inl h
  · exact .inr ⟨UInt32.le_iff_toNat_le.mp hlow, UInt32.le_iff_toNat_le.mp hhigh⟩

/-- A digit or a full stop may stand in a name, and is not the start of an escaped label. -/
lemma IsNumeric.isPlain (h : IsNumeric c) : IsPlain c ∧ c ≠ 'x' := by
  have hall : ∀ n < 58, 48 ≤ n → IsPlain (Char.ofNat n) ∧ Char.ofNat n ≠ 'x' := by decide
  rcases h.toNat with rfl | ⟨hlow, hhigh⟩
  · decide
  · have hc := hall c.toNat (by omega) hlow
    rwa [Char.ofNat_toNat] at hc

/-- Digits and full stops are not written from right to left. -/
lemma IsNumeric.direction (h : IsNumeric c) :
    Text.direction c ≠ .right ∧ Text.direction c ≠ .rightDigit := by
  have hall : ∀ n < 58, 48 ≤ n →
      Text.direction (Char.ofNat n) ≠ .right ∧ Text.direction (Char.ofNat n) ≠ .rightDigit := by
    decide +kernel
  rcases h.toNat with rfl | ⟨hlow, hhigh⟩
  · decide +kernel
  · have hc := hall c.toNat (by omega) hlow
    rwa [Char.ofNat_toNat] at hc

/-- A label of digits has itself for a form. -/
lemma forms?_numeric {label : List Char} (h : ∀ c ∈ label, IsNumeric c) :
    forms? label = some ⟨label, label⟩ := by
  have hmark : Text.after? Label.asciiMark label = none := by
    rw [Option.eq_none_iff_forall_ne_some]
    intro form hform
    rw [Text.after?_eq_some_iff.mp hform] at h
    exact (h 'x' (List.mem_append_left _ (by decide))).isPlain.2 rfl
  have hascii : label.all Punycode.isAscii = true :=
    List.all_eq_true.mpr fun c hc => (h c hc).isPlain.1.ascii
  simp only [forms?, hmark, hascii, if_true]

/-- A name of digits and full stops is its own ASCII form. -/
lemma toAscii?_numeric (h : ∀ c ∈ name, IsNumeric c) : toAscii? name = some name := by
  have hplain : ∀ c ∈ name, IsPlain c := fun c hc => (h c hc).isPlain.1
  have hfold := fold_eq_self hplain
  have hforbidden := any_isForbidden_eq_false hplain
  have hlabels : ∀ label ∈ Text.splitOn '.' name, ∀ c ∈ label, IsNumeric c :=
    fun label hlabel c hc => h c (Text.mem_of_mem_splitOn hlabel hc)
  have hreadable :
      isReadable ((Text.splitOn '.' name).map fun label => ⟨label, label⟩) = true := by
    have hleft : ((Text.splitOn '.' name).map fun label => Form.mk label label).any
        (fun f => Label.hasRightToLeft f.letters) = false := by
      rw [List.any_eq_false]
      intro f hf
      obtain ⟨label, hlabel, rfl⟩ := List.mem_map.mp hf
      rw [Bool.not_eq_true, Label.hasRightToLeft, List.any_eq_false]
      intro c hc
      have hdirection := (hlabels label hlabel c hc).direction
      simp [hdirection.1, hdirection.2]
    rw [isReadable, hleft]
    rfl
  have hjoin : ((Text.splitOn '.' name).map fun label => Form.mk label label).map Form.ascii =
      Text.splitOn '.' name := by
    rw [List.map_map]
    exact List.map_id _
  have hforms : (Text.splitOn '.' name).mapM forms? =
      some ((Text.splitOn '.' name).map fun label => ⟨label, label⟩) := by
    conv_lhs => rw [← hjoin]
    apply Text.mapM_written
    intro f hf
    obtain ⟨label, hlabel, rfl⟩ := List.mem_map.mp hf
    exact forms?_numeric (hlabels label hlabel)
  unfold toAscii?
  simp only [hfold, hforbidden, hforms, hreadable, if_true, Bool.false_eq_true, if_false, hjoin,
    Text.joinWith_splitOn]

end Domain

/-! ### The text of a host -/

/-- A host that can be read. -/
inductive Host.IsSound : Host → Prop
  | domain {name : List Char} (hname : Domain.toAscii? name = some name) (hne : name ≠ [])
      (hnumber : Address.endsInNumber name = false) : IsSound (.domain name)
  | ipv4 {address : ℕ} (h : address < 2 ^ 32) : IsSound (.ipv4 address)
  | ipv6 {pieces : List ℕ} (h : Address.ArePieces pieces) : IsSound (.ipv6 pieces)

/-- What is read as a host of the web is one that can be read. -/
lemma isSound_of_webHost? (h : webHost? text = .ok host) : host.IsSound := by
  unfold webHost? at h
  split at h
  · unfold bracketedHost? at h
    split at h
    · split at h
      · next pieces hpieces =>
        cases h
        exact .ipv6 (Address.arePieces_of_ipv6? hpieces)
      · cases h
    · cases h
  · split at h
    · cases h
    · split at h
      · cases h
      · next name hname =>
        split at h
        · cases h
        · next hempty =>
          split at h
          · split at h
            · next address haddress =>
              cases h
              exact .ipv4 (Address.lt_of_ipv4? haddress)
            · cases h
          · next hnumber =>
            cases h
            refine .domain (Domain.toAscii?_toAscii? hname) ?_ (by simpa using hnumber)
            simpa using hempty

/-- What may stand in a name is none of the characters that may not. -/
lemma ne_of_not_isForbidden {d : Char} (h : Domain.isForbidden c = false)
    (hd : Domain.isForbidden d = true) : c ≠ d :=
  ne_of_apply_ne Domain.isForbidden (by simp [h, hd])

/-- A name in its ASCII form is read as it is. -/
lemma webHost?_of_toAscii? (h : Domain.toAscii? name = some name) (hne : name ≠ []) :
    webHost? name =
      if Address.endsInNumber name then
        match Address.ipv4? name with
        | some address => .ok (.ipv4 address)
        | none => .error .invalidIpv4
      else .ok (.domain name) := by
  have hplain : ∀ c ∈ name, Domain.IsPlain c := fun c hc => Domain.isPlain_of_mem_toAscii? h hc
  have hhead : name.head? ≠ some '[' := fun hhead =>
    ne_of_not_isForbidden (hplain '[' (List.mem_of_head? hhead)).allowed (by decide) rfl
  have hascii : ∀ c ∈ name, c.toNat < 0x80 := fun c hc => by
    simpa [Punycode.isAscii] using (hplain c hc).ascii
  have hsign : Percent.sign ∉ Utf8.encode name := by
    rw [Utf8.encode_of_ascii hascii]
    intro hmem
    obtain ⟨c, hc, hbyte⟩ := List.mem_map.mp hmem
    have hcode : c.toNat = 0x25 := by
      have hbytes : ∀ n < 0x80, UInt8.ofNat n = Percent.sign → n = 0x25 := by decide
      exact hbytes c.toNat (hascii c hc) hbyte
    exact ne_of_not_isForbidden (d := '%') (hplain c hc).allowed (by decide)
      (Char.toNat_inj.mp hcode)
  unfold webHost?
  rw [if_neg hhead, Percent.decode_of_not_mem hsign, Utf8.decode?_encode]
  cases haddress : Address.ipv4? name <;>
    simp only [h, haddress, List.isEmpty_iff, if_neg hne]

/-- **Hosts read back.** -/
theorem webHost?_text (h : host.IsSound) : webHost? host.text = .ok host := by
  cases h with
  | domain hname hne hnumber =>
    rw [Host.text, webHost?_of_toAscii? hname hne, hnumber]
    rfl
  | @ipv4 address hlt =>
    have hname : Domain.toAscii? (Address.ipv4Text address) = some (Address.ipv4Text address) :=
      Domain.toAscii?_numeric fun c hc => Address.mem_ipv4Text hc
    have hread := Address.ipv4?_ipv4Text hlt
    have hnumber := Address.endsInNumber_ipv4Text address
    have hne : Address.ipv4Text address ≠ [] := by
      intro hnil
      rw [hnil] at hnumber
      cases hnumber
    rw [Host.text, webHost?_of_toAscii? hname hne, hnumber, hread]
    rfl
  | @ipv6 pieces hpieces =>
    have hhead : (Host.ipv6 pieces).text.head? = some '[' := rfl
    have hlast : (Host.ipv6 pieces).text.getLast? = some ']' := by
      rw [Host.text, List.getLast?_append]
      rfl
    have hinner : ((Host.ipv6 pieces).text.drop 1).dropLast = Address.ipv6Text pieces := by
      simp [Host.text]
    unfold webHost? bracketedHost?
    rw [if_pos hhead, hinner, hlast]
    simp only [Address.ipv6?_ipv6Text hpieces]

/-! ### Where a host ends -/

/-- What comes after a host: nothing, a port, a path, a query or a fragment. -/
def EndsHost (rest : List Char) : Prop :=
  ∀ c ∈ rest.head?, c = ':' ∨ isSlash .web c ∨ endsPath c

/-- An empty host goes up to what comes after it. -/
lemma spanHost_nil (hrest : EndsHost rest) : spanHost .web false rest = ([], rest) := by
  cases rest with
  | nil => rfl
  | cons c rest =>
    have hc := hrest c rfl
    rw [spanHost, if_pos]
    simp only [Bool.not_false, Bool.and_true, Bool.or_eq_true, decide_eq_true_eq]
    rcases hc with hc | hc | hc
    · exact .inl (.inl hc)
    · exact .inl (.inr hc)
    · exact .inr hc

/-- A host without brackets goes up to the first character that ends it. -/
lemma spanHost_append (htext : ∀ c ∈ text, c ≠ ':' ∧ c ≠ '[' ∧ isSlash .web c = false ∧ endsPath c = false)
    (hrest : EndsHost rest) : spanHost .web false (text ++ rest) = (text, rest) := by
  induction text with
  | nil => exact spanHost_nil hrest
  | cons c text ih =>
    obtain ⟨⟨hcolon, hbracket, hslash, hends⟩, htext⟩ := List.forall_mem_cons.mp htext
    have hinside : (c = '[' || (false && c ≠ ']')) = false := by simp [hbracket]
    rw [List.cons_append, spanHost, if_neg (by simp [hcolon, hslash, hends]), hinside, ih htext]

/-- A host in brackets goes up to the closing one. -/
lemma spanHost_brackets (htext : ∀ c ∈ text, c ≠ ']' ∧ isSlash .web c = false ∧ endsPath c = false)
    (hrest : EndsHost rest) :
    spanHost .web true (text ++ ']' :: rest) = (text ++ [']'], rest) := by
  induction text with
  | nil =>
    rw [List.nil_append, spanHost, if_neg (by decide)]
    have hinside : (']' = '[' || (true && ']' ≠ ']')) = false := by decide
    rw [hinside, spanHost_nil hrest]
    rfl
  | cons c text ih =>
    obtain ⟨⟨hbracket, hslash, hends⟩, htext⟩ := List.forall_mem_cons.mp htext
    have hinside : (c = '[' || (true && c ≠ ']')) = true := by simp [hbracket]
    rw [List.cons_append, spanHost, if_neg (by simp [hslash, hends]), hinside, ih htext]
    rfl

/-- The characters of an address of eight pieces. -/
lemma mem_ipv6Text (h : c ∈ Address.ipv6Text pieces) :
    c = ':' ∨ ∃ d < 16, c = Nat.digitChar d := by
  have hpieces : ∀ list : List ℕ, c ∈ Address.piecesText list →
      c = ':' ∨ ∃ d < 16, c = Nat.digitChar d := by
    intro list hc
    rcases Text.mem_joinWith hc with hc | ⟨part, hpart, hc⟩
    · exact .inl (List.mem_singleton.mp hc)
    · obtain ⟨p, -, rfl⟩ := List.mem_map.mp hpart
      exact .inr (Address.mem_toDigits (by decide) le_rfl hc)
  unfold Address.ipv6Text at h
  dsimp only at h
  split at h
  · exact hpieces _ h
  · rcases List.mem_append.mp h with h | h
    · rcases List.mem_append.mp h with h | h
      · exact hpieces _ h
      · simp only [List.mem_cons, List.not_mem_nil, or_false, or_self] at h
        exact .inl h
    · exact hpieces _ h

/-- A character that may stand in a host and does not end it. -/
structure IsHostChar (c : Char) : Prop where
  visible : 0x20 < c.toNat
  ne_at : c ≠ '@'
  not_slash : isSlash .web c = false
  not_end : endsPath c = false

instance : DecidablePred IsHostChar := fun c =>
  decidable_of_iff (0x20 < c.toNat ∧ c ≠ '@' ∧ isSlash .web c = false ∧ endsPath c = false)
    ⟨fun h => ⟨h.1, h.2.1, h.2.2.1, h.2.2.2⟩, fun h => ⟨h.visible, h.ne_at, h.not_slash, h.not_end⟩⟩

/-- The characters of an address of eight pieces, between its brackets. -/
lemma isHostChar_ipv6 (h : c = ':' ∨ ∃ d < 16, c = Nat.digitChar d) : IsHostChar c ∧ c ≠ ']' := by
  have hall : ∀ d < 16, IsHostChar (Nat.digitChar d) ∧ Nat.digitChar d ≠ ']' := by decide
  rcases h with rfl | ⟨d, hd, rfl⟩
  · decide
  · exact hall d hd

/-- The characters that a domain name may have. -/
lemma isHostChar_of_not_isForbidden (h : Domain.isForbidden c = false) :
    IsHostChar c ∧ c ≠ ':' ∧ c ≠ '[' := by
  have hne : ∀ {d}, Domain.isForbidden d = true → c ≠ d := ne_of_not_isForbidden h
  refine ⟨⟨?_, hne (by decide), ?_, ?_⟩, hne (by decide), hne (by decide)⟩
  · by_contra hle
    simp [Domain.isForbidden, not_lt.mp hle] at h
  · simp [isSlash, hne (d := '/') (by decide), hne (d := '\\') (by decide)]
  · simp [endsPath, hne (d := '?') (by decide), hne (d := '#') (by decide)]

/-- The characters of a host that is no address of eight pieces. -/
lemma Host.IsSound.plain (h : host.IsSound) :
    (∀ c ∈ host.text, Domain.isForbidden c = false) ∨ ∃ pieces, host = .ipv6 pieces := by
  cases h with
  | domain hname => exact .inl fun c hc => (Domain.isPlain_of_mem_toAscii? hname hc).allowed
  | ipv4 => exact .inl fun c hc => (Domain.IsNumeric.isPlain (Address.mem_ipv4Text hc)).1.allowed
  | @ipv6 pieces => exact .inr ⟨pieces, rfl⟩

/-- The characters of a host. -/
lemma Host.IsSound.mem_text (h : host.IsSound) (hc : c ∈ host.text) : IsHostChar c := by
  rcases h.plain with hplain | ⟨pieces, rfl⟩
  · exact (isHostChar_of_not_isForbidden (hplain c hc)).1
  · rcases List.mem_append.mp hc with hc | hc
    · rcases List.mem_cons.mp hc with rfl | hc
      · decide
      · exact (isHostChar_ipv6 (mem_ipv6Text hc)).1
    · rw [List.mem_singleton.mp hc]
      decide

/-- The text of a host is not empty. -/
lemma Host.IsSound.text_ne_nil (h : host.IsSound) : host.text ≠ [] := by
  intro hnil
  have hread := webHost?_text h
  rw [hnil] at hread
  cases hread

/-- The text of a host goes up to what comes after it. -/
lemma spanHost_text (h : host.IsSound) (hrest : EndsHost rest) :
    spanHost .web false (host.text ++ rest) = (host.text, rest) := by
  rcases h.plain with hplain | ⟨pieces, rfl⟩
  · refine spanHost_append (fun c hc => ?_) hrest
    obtain ⟨hchar, hcolon, hbracket⟩ := isHostChar_of_not_isForbidden (hplain c hc)
    exact ⟨hcolon, hbracket, hchar.not_slash, hchar.not_end⟩
  · have hinner : ∀ c ∈ Address.ipv6Text pieces,
        c ≠ ']' ∧ isSlash .web c = false ∧ endsPath c = false := by
      intro c hc
      obtain ⟨hchar, hbracket⟩ := isHostChar_ipv6 (mem_ipv6Text hc)
      exact ⟨hbracket, hchar.not_slash, hchar.not_end⟩
    have htext : (Host.ipv6 pieces).text ++ rest =
        '[' :: (Address.ipv6Text pieces ++ ']' :: rest) := by
      simp [Host.text]
    have hinside : ('[' = '[' || (false && '[' ≠ ']')) = true := by decide
    rw [htext, spanHost, if_neg (by decide), hinside, spanHost_brackets hinner hrest]
    rfl

end Url

end Retrace
