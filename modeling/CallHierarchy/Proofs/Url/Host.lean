import CallHierarchy.Proofs.Url.Percent
import CallHierarchy.Url.File

/-! What is read as the URL of a file. However it was written, its path is one or more segments,
each behind a slash, and its host, if it has one, holds no slash (`wellFormed_of_parse?`). Decoding
the path keeps the slash at its front (`exists_cons_of_decode?`). -/

namespace CallHierarchy

namespace Text

theorem mem_join {sep : List Char} {parts : List (List Char)} {c : Char} (h : c ∈ join sep parts) :
    c ∈ sep ∨ ∃ part ∈ parts, c ∈ part := by
  induction parts with
  | nil => cases h
  | cons part rest ih =>
    cases rest with
    | nil => exact .inr ⟨part, List.mem_cons_self, h⟩
    | cons second rest =>
      rw [join, List.mem_append, List.mem_append] at h
      · rcases h with (hpart | hsep) | hrest
        · exact .inr ⟨part, List.mem_cons_self, hpart⟩
        · exact .inl hsep
        · refine (ih hrest).imp_right fun ⟨p, hp, hc⟩ => ⟨p, List.mem_cons_of_mem _ hp, hc⟩
      · exact List.cons_ne_nil _ _

end Text

/-! ### Hosts -/

/-- No digit, in any base, is a slash. -/
theorem slash_not_mem_toDigits {base : Nat} (hbase : 1 < base) (n : Nat) :
    '/' ∉ Nat.toDigits base n := by
  have hdigit : ∀ d : Nat, d.digitChar ≠ '/' := fun d => Nat.digitChar_ne '/' (by decide)
  induction n using Nat.strongRecOn with
  | _ n ih =>
    by_cases hn : n < base
    · rw [Nat.toDigits_of_lt_base hn, List.mem_singleton]
      exact (hdigit n).symm
    · have hle := Nat.not_lt.1 hn
      rw [Nat.toDigits_of_base_le hbase hle, List.mem_append, List.mem_singleton, not_or]
      exact ⟨ih (n / base) (Nat.div_lt_self (by omega) hbase), (hdigit _).symm⟩

theorem Ipv4.slash_not_mem_text (address : Nat) : '/' ∉ Ipv4.text address := by
  intro h
  rcases Text.mem_join h with hsep | ⟨part, hpart, hc⟩
  · exact absurd hsep (by decide)
  · obtain ⟨i, -, rfl⟩ := List.mem_map.1 hpart
    exact slash_not_mem_toDigits (by decide) _ hc

theorem Ipv6.slash_not_mem_text (groups : List Nat) : '/' ∉ Ipv6.text groups := by
  have hside : ∀ part : List Nat, '/' ∉ Text.join [':'] (part.map groupText) := by
    intro part h
    rcases Text.mem_join h with hsep | ⟨group, hgroup, hc⟩
    · exact absurd hsep (by decide)
    · obtain ⟨n, -, rfl⟩ := List.mem_map.1 hgroup
      exact slash_not_mem_toDigits (by decide) n hc
  have hcolons : '/' ∉ "::".toList := by decide
  rw [Ipv6.text]
  split
  next start count _ =>
    split
    · exact hside groups
    · simp only [List.mem_append, not_or]
      exact ⟨⟨hside _, hcolons⟩, hside _⟩

namespace FileUrl

theorem slash_not_mem_host? {cs host : List Char} (h : host? cs = some host) : '/' ∉ host := by
  unfold host? at h
  split at h
  · split at h
    · obtain ⟨groups, -, rfl⟩ := Option.map_eq_some_iff.1 h
      rw [List.cons_append, List.mem_cons, List.mem_append, not_or, not_or]
      exact ⟨by decide, Ipv6.slash_not_mem_text groups, by decide⟩
    · cases h
  · obtain ⟨decoded, -, h⟩ := Option.bind_eq_some_iff.1 h
    obtain ⟨name, hname, h⟩ := Option.bind_eq_some_iff.1 h
    split at h
    · cases h
    split at h
    · obtain ⟨address, -, rfl⟩ := Option.map_eq_some_iff.1 h
      exact Ipv4.slash_not_mem_text address
    · obtain rfl := Option.some.inj h
      intro hslash
      exact absurd (Domain.isForbidden_of_toAscii? hname hslash) (by decide)

/-! ### URLs that have been read -/

/-- A URL as the reader makes it. -/
structure WellFormed (url : FileUrl) : Prop where
  segments_ne_nil : url.segments ≠ []
  slash_not_mem : ∀ host ∈ url.host, '/' ∉ host

theorem dropEmpty_ne_nil (segments : List (List Char)) : dropEmpty segments ≠ [] := by
  fun_induction dropEmpty segments with
  | case1 => exact List.cons_ne_nil _ _
  | case2 last => exact List.cons_ne_nil _ _
  | case3 rest _ ih => exact ih
  | case4 first rest _ _ => exact List.cons_ne_nil _ _

theorem wellFormed_ofPath {host : Option (List Char)} (h : ∀ name ∈ host, '/' ∉ name)
    (path : List Char) : WellFormed (ofPath host path) := by
  refine ⟨dropEmpty_ne_nil _, ?_⟩
  rw [ofPath]
  split
  · intro _ hnone
    cases hnone
  · exact h

theorem wellFormed_ofPath_none (path : List Char) : WellFormed (ofPath none path) :=
  wellFormed_ofPath (fun _ hname => by cases hname) path

theorem wellFormed_ofAuthority? {cs : List Char} {url : FileUrl} (h : ofAuthority? cs = some url) :
    WellFormed url := by
  unfold ofAuthority? at h
  simp only at h
  split at h
  · obtain rfl := Option.some.inj h
    exact wellFormed_ofPath_none _
  split at h
  · obtain rfl := Option.some.inj h
    exact wellFormed_ofPath_none _
  obtain ⟨host, hhost, h⟩ := Option.bind_eq_some_iff.1 h
  split at h
  · obtain rfl := Option.some.inj h
    exact wellFormed_ofPath_none _
  · obtain rfl := Option.some.inj h
    refine wellFormed_ofPath (fun name hname => ?_) _
    obtain rfl := Option.some.inj hname
    exact slash_not_mem_host? hhost

/-- Whatever is read as the URL of a file has a path from the root, and no slash in its host. -/
theorem wellFormed_of_parse? {cs : List Char} {url : FileUrl} (h : parse? cs = some url) :
    WellFormed url := by
  unfold parse? at h
  split at h
  · cases h
  split at h
  · unfold ofRest? at h
    split at h
    · obtain rfl := Option.some.inj h
      exact wellFormed_ofPath_none _
    split at h
    · obtain rfl := Option.some.inj h
      exact wellFormed_ofPath_none _
    · exact wellFormed_ofAuthority? h
  · cases h

theorem WellFormed.exists_path {url : FileUrl} (h : WellFormed url) :
    ∃ rest, url.path = '/' :: rest := by
  obtain ⟨segment, rest, hsegments⟩ := List.exists_cons_of_ne_nil h.segments_ne_nil
  exact ⟨segment ++ rest.flatMap ('/' :: ·), by rw [path, hsegments]; rfl⟩

end FileUrl

/-! ### Decoded paths -/

/-- A slash is none of the characters of an encoding, so it stays at the front of a text. -/
theorem Percent.exists_cons_of_decode? {cs text : List Char}
    (h : decode? ('/' :: cs) = some text) : ∃ rest, text = '/' :: rest := by
  obtain ⟨s, hs, rfl⟩ := Option.map_eq_some_iff.1 h
  have hslash : Utf8.encode (String.ofList ['/']) = [47] := by decide
  rw [Utf8.decode?_eq_some_iff, ← List.singleton_append, Utf8.encode_ofList_append, hslash,
    List.singleton_append, decodeBytes_cons (by decide)] at hs
  obtain ⟨rest, hrest⟩ : ['/'] <+: s.toList := by
    refine Utf8.prefix_of_encode ?_
    rw [String.ofList_toList, hs, hslash]
    exact ⟨_, rfl⟩
  exact ⟨rest, hrest.symm⟩

end CallHierarchy
