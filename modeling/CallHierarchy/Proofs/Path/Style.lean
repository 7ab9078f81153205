import CallHierarchy.Path
import CallHierarchy.Proofs.Url.Host

/-! The two styles in which the path of a file is written. A path in the style of Windows is the
path in the other style with its slashes turned, less the backslash before a drive
(`ofUri_turned`). So it begins at a root as well, unless nothing that divides follows the drive
(`ofUri_rooted`). -/

namespace CallHierarchy.Path

variable {uri : String} {url : FileUrl} {path : List Char}

theorem toList_ofUri (hurl : FileUrl.parse? uri.toList = some url)
    (hpath : Percent.decode? url.path = some path) (style : PathStyle) :
    (ofUri style uri).toList = render style url.host path := by
  have hfile : ofFileUri? style uri.toList = some (render style url.host path) := by
    rw [ofFileUri?, hurl]
    simp only [Option.bind_eq_bind, Option.bind_some, hpath]
  rw [ofUri, hfile]
  exact String.toList_ofList

theorem ofUri_of_no_file (h : ¬∃ url path, FileUrl.parse? uri.toList = some url ∧
    Percent.decode? url.path = some path) (style : PathStyle) : ofUri style uri = uri := by
  have hfile : ofFileUri? style uri.toList = none := by
    refine Option.eq_none_iff_forall_ne_some.2 fun text htext => h ?_
    obtain ⟨url, hurl, hrest⟩ := Option.bind_eq_some_iff.1 htext
    obtain ⟨path, hpath, -⟩ := Option.bind_eq_some_iff.1 hrest
    exact ⟨url, path, hurl, hpath⟩
  rw [ofUri, hfile]

/-- The path that a URI names begins at the root. -/
theorem exists_cons_of_file (hurl : FileUrl.parse? uri.toList = some url)
    (hpath : Percent.decode? url.path = some path) : ∃ rest, path = '/' :: rest := by
  obtain ⟨encoded, hencoded⟩ := (FileUrl.wellFormed_of_parse? hurl).exists_path
  exact Percent.exists_cons_of_decode? (hencoded ▸ hpath)

/-! ### Turned slashes -/

theorem slash_not_mem_toBackslashes (cs : List Char) : '/' ∉ toBackslashes cs := by
  intro h
  obtain ⟨c, -, hc⟩ := List.mem_map.1 h
  split at hc
  · exact absurd hc (by decide)
  · next hne => exact hne hc

theorem toBackslashes_of_not_mem {cs : List Char} (h : '/' ∉ cs) : toBackslashes cs = cs := by
  have hkept : ∀ c ∈ cs, (if c = '/' then '\\' else c) = c := by
    intro c hc
    refine if_neg ?_
    rintro rfl
    exact h hc
  rw [toBackslashes, List.map_congr_left hkept, List.map_id']

/-- Where turning leaves anything but a backslash, it has changed nothing. -/
theorem eq_of_turned {c d : Char} (h : (if c = '/' then '\\' else c) = d) (hd : d ≠ '\\') :
    c = d := by
  split at h
  · exact absurd h.symm hd
  · exact h

theorem toBackslashes_append (a b : List Char) :
    toBackslashes (a ++ b) = toBackslashes a ++ toBackslashes b := List.map_append

/-! ### Drives -/

theorem stripDriveSlash_of_drive {letter : Char} (h : letter.isAlpha = true) (rest : List Char) :
    stripDriveSlash ('\\' :: letter :: ':' :: rest) = letter :: ':' :: rest := if_pos h

theorem stripDriveSlash_eq_self {cs : List Char}
    (h : ¬∃ letter rest, cs = '\\' :: letter :: ':' :: rest ∧ letter.isAlpha = true) :
    stripDriveSlash cs = cs := by
  unfold stripDriveSlash
  split
  · next rest =>
    refine if_neg fun hdrive => h ?_
    unfold startsWithDrive at hdrive
    split at hdrive
    · next letter rest => exact ⟨letter, rest, rfl, hdrive⟩
    · cases hdrive
  · rfl

theorem mem_of_mem_stripDriveSlash {cs : List Char} {c : Char} (h : c ∈ stripDriveSlash cs) :
    c ∈ cs := by
  unfold stripDriveSlash at h
  split at h
  · split at h
    · exact List.mem_cons_of_mem _ h
    · exact h
  · exact h

theorem render_windows {host : Option (List Char)} (h : ∀ name ∈ host, '/' ∉ name)
    (path : List Char) :
    render .windows host path = stripDriveSlash (toBackslashes (render .posix host path)) := by
  cases host with
  | none => rfl
  | some name =>
    have hposix : render .posix (some name) path = ['/', '/'] ++ name ++ path := rfl
    rw [hposix, toBackslashes_append, toBackslashes_append, toBackslashes_of_not_mem (h name rfl)]
    -- The second backslash stands where the letter of a drive would, so the first one stays.
    refine (stripDriveSlash_eq_self ?_).symm
    rintro ⟨letter, rest, hdrive, hletter⟩
    obtain ⟨rfl, -⟩ := List.cons.inj (List.cons.inj hdrive).2
    exact absurd hletter (by decide)

/-- If a URI names a file, its path in the style of Windows is that in the other style with every
slash turned, less a backslash before a drive, and the host of the file stands before the path in
both. A URI that names none stands for itself in both. -/
theorem ofUri_turned (uri : String) :
    (∀ url path, FileUrl.parse? uri.toList = some url → Percent.decode? url.path = some path →
      let turned := (ofUri .posix uri).toList.map fun c => if c = '/' then '\\' else c
      (∀ letter rest, letter.isAlpha = true → turned = '\\' :: letter :: ':' :: rest →
        (ofUri .windows uri).toList = letter :: ':' :: rest) ∧
      ((¬∃ letter rest, turned = '\\' :: letter :: ':' :: rest ∧ letter.isAlpha = true) →
        (ofUri .windows uri).toList = turned) ∧
      '/' ∉ (ofUri .windows uri).toList ∧
      ∀ host, url.host = some host →
        (ofUri .posix uri).toList = "//".toList ++ host ++ path ∧
        (ofUri .windows uri).toList = "\\\\".toList ++ host ++ toBackslashes path) ∧
    ((¬∃ url path, FileUrl.parse? uri.toList = some url ∧ Percent.decode? url.path = some path) →
      ofUri .posix uri = uri ∧ ofUri .windows uri = uri) := by
  refine ⟨fun url path hurl hpath => ?_, fun h => ⟨ofUri_of_no_file h _, ofUri_of_no_file h _⟩⟩
  have hposix := toList_ofUri hurl hpath .posix
  have hwindows := toList_ofUri hurl hpath .windows
  have hturned : (ofUri .windows uri).toList =
      stripDriveSlash (toBackslashes (ofUri .posix uri).toList) := by
    rw [hwindows, hposix, render_windows (FileUrl.wellFormed_of_parse? hurl).slash_not_mem]
  refine ⟨fun letter rest hletter hdrive => ?_, fun hnone => ?_, fun hslash => ?_,
    fun host hhost => ?_⟩
  · exact hturned.trans ((congrArg stripDriveSlash hdrive).trans
      (stripDriveSlash_of_drive hletter rest))
  · exact hturned.trans (stripDriveSlash_eq_self hnone)
  · rw [hturned] at hslash
    exact slash_not_mem_toBackslashes _ (mem_of_mem_stripDriveSlash hslash)
  · rw [hposix, hwindows, hhost]
    exact ⟨rfl, rfl⟩

theorem ofUri_turned_host :
    let uri := "FILE:\\\\SRV.example\\a%5Cb/./c%3Ad%2Fe"
    let other := "file:///C:/%FF"
    (∃ url path, FileUrl.parse? uri.toList = some url ∧ Percent.decode? url.path = some path ∧
      url.host = some "srv.example".toList) ∧
    (ofUri .posix uri).toList = "//srv.example/a\\b/c:d/e".toList ∧
    (ofUri .windows uri).toList = "\\\\srv.example\\a\\b\\c:d\\e".toList ∧
    (¬∃ url path, FileUrl.parse? other.toList = some url ∧
      Percent.decode? url.path = some path) ∧
    ofUri .posix other = other ∧ ofUri .windows other = other := by
  intro uri other
  have hurl : FileUrl.parse? uri.toList =
      some ⟨some "srv.example".toList, ["a%5Cb".toList, "c%3Ad%2Fe".toList]⟩ := by decide +kernel
  have hpath : Percent.decode? (FileUrl.path
      ⟨some "srv.example".toList, ["a%5Cb".toList, "c%3Ad%2Fe".toList]⟩) =
      some "/a\\b/c:d/e".toList := by decide +kernel
  have hother : ¬∃ url path, FileUrl.parse? other.toList = some url ∧
      Percent.decode? url.path = some path := by
    rintro ⟨url, path, hurl, hpath⟩
    have hbytes : (FileUrl.parse? other.toList).bind (fun url => Percent.decode? url.path) =
        none := by decide +kernel
    rw [hurl, Option.bind_some, hpath] at hbytes
    cases hbytes
  obtain ⟨hposix, hwindows⟩ := ((ofUri_turned uri).1 _ _ hurl hpath).2.2.2 _ rfl
  exact ⟨⟨_, _, hurl, hpath, rfl⟩, hposix, hwindows, hother, (ofUri_turned other).2 hother⟩

/-! ### Roots -/

/-- Whether a path is absolute in the style of Windows: it begins with a backslash, or with a drive
and a backslash behind it. -/
def isRooted : List Char → Bool
  | '\\' :: _ => true
  | letter :: ':' :: '\\' :: _ => letter.isAlpha
  | _ => false

theorem ne_backslash_of_isAlpha {letter : Char} (h : letter.isAlpha = true) : letter ≠ '\\' := by
  rintro rfl
  exact absurd h (by decide)

theorem isRooted_drive {letter : Char} (h : letter.isAlpha = true) (cs : List Char) :
    isRooted (letter :: ':' :: cs) = (cs.head? == some '\\') := by
  have hne := ne_backslash_of_isAlpha h
  cases cs with
  | nil => simp [isRooted, hne]
  | cons c cs => by_cases hc : c = '\\' <;> simp [isRooted, hne, hc, h]

/-- Whether a path has a drive behind its first slash. -/
def HasDrive (path : List Char) : Prop :=
  ∃ letter rest, letter.isAlpha = true ∧ path = '/' :: letter :: ':' :: rest

theorem isRooted_of_not_hasDrive {rest : List Char} (h : ¬HasDrive ('/' :: rest)) :
    isRooted (stripDriveSlash (toBackslashes ('/' :: rest))) = true := by
  rw [stripDriveSlash_eq_self]
  · rfl
  rintro ⟨letter, behind, hdrive, hletter⟩
  refine h ?_
  match rest, hdrive with
  | c :: d :: rest, hdrive =>
    obtain ⟨-, hc, hd, -⟩ : True ∧ _ = letter ∧ _ = ':' ∧ _ = behind := by
      simpa [toBackslashes] using hdrive
    obtain rfl := eq_of_turned hc (ne_backslash_of_isAlpha hletter)
    obtain rfl := eq_of_turned hd (by decide)
    exact ⟨c, rest, hletter, rfl⟩

theorem stripDriveSlash_toBackslashes {letter : Char} (h : letter.isAlpha = true)
    (rest : List Char) : stripDriveSlash (toBackslashes ('/' :: letter :: ':' :: rest)) =
      letter :: ':' :: toBackslashes rest := by
  have hne : letter ≠ '/' := by
    rintro rfl
    exact absurd h (by decide)
  have hturned : toBackslashes ('/' :: letter :: ':' :: rest) =
      '\\' :: letter :: ':' :: toBackslashes rest := by simp [toBackslashes, hne]
  rw [hturned, stripDriveSlash_of_drive h]

theorem head?_toBackslashes {rest : List Char} :
    (toBackslashes rest).head? = some '\\' ↔ rest.head?.any FileUrl.isSlash = true := by
  cases rest with
  | nil => simp [toBackslashes]
  | cons c rest =>
    by_cases hc : c = '/' <;> simp [toBackslashes, FileUrl.isSlash, hc]

/-- The path of a file begins at the root. In the style of Windows too it is absolute, unless the
file has no host and its path is a drive with something other than a slash behind it, or with
nothing: then the path begins with the drive and is relative to it. -/
theorem ofUri_rooted (hurl : FileUrl.parse? uri.toList = some url)
    (hpath : Percent.decode? url.path = some path) :
    (ofUri .posix uri).toList.head? = some '/' ∧
    (isRooted (ofUri .windows uri).toList = false ↔
      url.host = none ∧ ∃ letter rest, letter.isAlpha = true ∧
        path = '/' :: letter :: ':' :: rest ∧ rest.head?.any FileUrl.isSlash = false ∧
        (ofUri .windows uri).toList = letter :: ':' :: toBackslashes rest) := by
  obtain ⟨rest, rfl⟩ := exists_cons_of_file hurl hpath
  rw [toList_ofUri hurl hpath, toList_ofUri hurl hpath]
  cases url.host with
  | some name =>
    have hroot : isRooted (render .windows (some name) ('/' :: rest)) = true := rfl
    rw [hroot]
    refine ⟨rfl, iff_of_false (by decide) ?_⟩
    rintro ⟨hhost, -⟩
    cases hhost
  | none =>
    refine ⟨rfl, ?_⟩
    have hwindows : render .windows none ('/' :: rest) =
        stripDriveSlash (toBackslashes ('/' :: rest)) := rfl
    rw [hwindows]
    by_cases hdrive : HasDrive ('/' :: rest)
    · obtain ⟨letter, behind, hletter, heq⟩ := hdrive
      rw [heq, stripDriveSlash_toBackslashes hletter, isRooted_drive hletter,
        beq_eq_false_iff_ne, Ne, head?_toBackslashes, Bool.not_eq_true]
      constructor
      · intro hopen
        exact ⟨rfl, letter, behind, hletter, rfl, hopen, rfl⟩
      · rintro ⟨-, letter', behind', -, heq', hopen, -⟩
        obtain ⟨-, -, rfl⟩ : True ∧ letter = letter' ∧ behind = behind' := by simpa using heq'
        exact hopen
    · rw [isRooted_of_not_hasDrive hdrive]
      refine iff_of_false (by decide) ?_
      rintro ⟨-, letter, behind, hletter, heq, -⟩
      exact hdrive ⟨letter, behind, hletter, heq⟩

theorem ofUri_rooted_drive :
    let uri := "file:///c%3A%5Cdir/b%20c"
    (∃ url path, FileUrl.parse? uri.toList = some url ∧ Percent.decode? url.path = some path) ∧
      (ofUri .posix uri).toList.head? = some '/' ∧ isRooted (ofUri .windows uri).toList = true := by
  intro uri
  have hurl : FileUrl.parse? uri.toList =
      some ⟨none, ["c%3A%5Cdir".toList, "b%20c".toList]⟩ := by decide +kernel
  have hpath : Percent.decode? (FileUrl.path ⟨none, ["c%3A%5Cdir".toList, "b%20c".toList]⟩) =
      some ('/' :: 'c' :: ':' :: "\\dir/b c".toList) := by decide +kernel
  obtain ⟨hposix, hwindows⟩ := ofUri_rooted hurl hpath
  refine ⟨⟨_, _, hurl, hpath⟩, hposix, eq_true_of_ne_false fun hopen => ?_⟩
  obtain ⟨-, letter, rest, -, hdrive, hrest, -⟩ := hwindows.1 hopen
  -- The decoded colon makes a drive, and the decoded backslash is what stands behind it.
  obtain ⟨-, rfl⟩ : 'c' = letter ∧ "\\dir/b c".toList = rest := by simpa using hdrive
  exact absurd hrest (by decide +kernel)

/-- A drive without a slash behind it loses the one before it, and what is left is not absolute. -/
theorem ofUri_not_rooted :
    let uri := "file:///C:foo"
    (∃ url path, FileUrl.parse? uri.toList = some url ∧ Percent.decode? url.path = some path) ∧
      (ofUri .windows uri).toList = "C:foo".toList ∧
      isRooted (ofUri .windows uri).toList = false := by
  intro uri
  have hurl : FileUrl.parse? uri.toList = some ⟨none, ["C:foo".toList]⟩ := by decide +kernel
  have hpath : Percent.decode? (FileUrl.path ⟨none, ["C:foo".toList]⟩) =
      some "/C:foo".toList := by decide +kernel
  have hwindows : (ofUri .windows uri).toList = "C:foo".toList :=
    (toList_ofUri hurl hpath .windows).trans (by decide +kernel)
  refine ⟨⟨_, _, hurl, hpath⟩, hwindows, ?_⟩
  rw [hwindows]
  decide +kernel

end CallHierarchy.Path
