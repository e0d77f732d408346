import UniversityQA.Config.Settings

/-!
# The connection string says what the settings say

* `Settings.Unreserved`: no part of the settings has a character that ends it
  early, and none has an escape.
* `splitDsn_postgresDsn_iff`: exactly then the driver reads the settings back.
* `splitDsn_reserved_password`: a password that is read as four other things.
-/

namespace UniversityQA.Config

open UniversityQA.Py

/-- No character of `s` is in `reserved`. -/
def Without (reserved : List Char) (s : List Char) : Prop := ∀ c ∈ s, c ∉ reserved

/-- Each part is free of the characters that end it and of escapes. -/
structure Settings.Unreserved (s : Settings) : Prop where
  user : Without [':', '/', '?', '#'] s.postgresUser.toList
  password : Without ['/', '?', '#'] s.postgresPassword.toList
  host : Without ['@', ':', '/', '?', '#'] s.postgresHost.toList
  database : Without ['?', '#'] s.postgresDb.toList
  user_plain : ¬HasEscape s.postgresUser.toList
  password_plain : ¬HasEscape s.postgresPassword.toList
  host_plain : ¬HasEscape s.postgresHost.toList
  database_plain : ¬HasEscape s.postgresDb.toList

/-! ## The string -/

/-- User, password and host as they are written. -/
def head (user password host : List Char) : List Char :=
  user ++ ':' :: (password ++ '@' :: host)

/-- Port and database as they are written. -/
def tail (port : Int) (database : List Char) : List Char :=
  ':' :: ((toString port).toList ++ '/' :: database)

theorem drop_postgresDsn (self : Settings) :
    self.postgresDsn.toList.drop "postgresql://".length =
      head self.postgresUser.toList self.postgresPassword.toList self.postgresHost.toList ++
        tail self.postgresPort self.postgresDb.toList := by
  have hscheme : "postgresql://".length = "postgresql://".toList.length := by decide
  have hdsn : self.postgresDsn.toList = "postgresql://".toList ++
      (head self.postgresUser.toList self.postgresPassword.toList self.postgresHost.toList ++
        tail self.postgresPort self.postgresDb.toList) := by
    simp [Settings.postgresDsn, head, tail]
  rw [hdsn, hscheme, List.drop_left]

theorem notMem_toString {c : Char} (hdigit : c.isDigit = false) (hsign : c ≠ '-') (n : Int) :
    c ∉ (toString n).toList := by
  intro hc
  rcases mem_toString hc with h | h
  · rw [hdigit] at h
    cases h
  · exact hsign h

/-! ## The splitting by its parts -/

def authority (body : List Char) : List Char := body.takeWhile fun c => !endsAuthority c

def afterAuthority (body : List Char) : List Char := body.dropWhile fun c => !endsAuthority c

theorem splitDsn_postgresDsn (self : Settings) (body : List Char)
    (hbody : body = head self.postgresUser.toList self.postgresPassword.toList
      self.postgresHost.toList ++ tail self.postgresPort self.postgresDb.toList) :
    splitDsn self.postgresDsn =
      { user := decodePart (partition ':' (rpartition '@' (authority body)).1).1
        password := decodePart (partition ':' (rpartition '@' (authority body)).1).2
        host := decodePart (partition ':' (rpartition '@' (authority body)).2).1
        port := parseInt (decodePart (partition ':' (rpartition '@' (authority body)).2).2)
        database := decodePart (((afterAuthority body).takeWhile fun c => !endsPath c).drop 1) } := by
  rw [splitDsn, drop_postgresDsn, ← hbody]
  rfl

theorem length_le_of_decodePart {s : List Char} {t : String} (h : decodePart s = t) :
    t.toList.length ≤ s.length := by
  rw [← h, decodePart, String.toList_ofList]
  exact length_unquote_le s

theorem decodePart_iff (s : String) : decodePart s.toList = s ↔ ¬HasEscape s.toList := by
  rw [← unquote_eq_self_iff, decodePart]
  constructor
  · intro h
    rw [← String.toList_ofList (l := unquote s.toList), h]
  · intro h
    rw [h, String.ofList_toList]

/-! ## Lengths of what is split off -/

theorem takeWhile_short {p : Char → Bool} {a : List Char} (h : ∃ c ∈ a, p c = false)
    (b : List Char) :
    (a ++ b).takeWhile p <+: a ∧ ((a ++ b).takeWhile p).length < a.length := by
  have hleft : a.takeWhile p <+: a := List.takeWhile_prefix p
  have hshort : (a.takeWhile p).length ≠ a.length := by
    intro hlen
    obtain ⟨c, hc, hpc⟩ := h
    have hall := List.takeWhile_eq_self_iff.1 (hleft.eq_of_length hlen) c hc
    rw [hpc] at hall
    cases hall
  have hle := hleft.length_le
  rw [List.takeWhile_append, if_neg hshort]
  exact ⟨hleft, by omega⟩

theorem length_partition_le (c : Char) (a b : List Char) :
    (partition c (a ++ c :: b)).1.length ≤ a.length := by
  by_cases h : c ∈ a
  · obtain ⟨x, y, rfl, hx⟩ := exists_first h
    rw [List.append_assoc, List.cons_append, partition_append hx]
    simp
  · rw [partition_append h]

theorem notMem_of_length_le {c : Char} {a b : List Char}
    (h : a.length ≤ (partition c (a ++ c :: b)).1.length) : c ∉ a := by
  intro hc
  obtain ⟨x, y, rfl, hx⟩ := exists_first hc
  rw [List.append_assoc, List.cons_append, partition_append hx] at h
  simp only [List.length_append, List.length_cons] at h
  omega

theorem length_partition (c : Char) (s : List Char) :
    (partition c s).1.length + (partition c s).2.length + (if c ∈ s then 1 else 0) = s.length := by
  by_cases h : c ∈ s
  · obtain ⟨a, b, rfl, ha⟩ := exists_first h
    rw [partition_append ha, if_pos h, List.length_append, List.length_cons, Nat.add_assoc]
  · rw [partition_of_notMem h, if_neg h]
    rfl

theorem length_rpartition (c : Char) (s : List Char) :
    (rpartition c s).1.length + (rpartition c s).2.length + (if c ∈ s then 1 else 0) =
      s.length := by
  by_cases h : c ∈ s
  · obtain ⟨a, b, rfl, hb⟩ := exists_last h
    rw [rpartition_append a hb, if_pos h, List.length_append, List.length_cons, Nat.add_assoc]
  · rw [rpartition_of_notMem h, if_neg h]
    simp

/-- A text without `d` before its `c` ends before the first `d`. -/
theorem length_lt_of_append_eq {c d : Char} (hne : c ≠ d) {u x a b : List Char} (hu : d ∉ u)
    (h : u ++ c :: x = a ++ d :: b) : u.length < a.length := by
  rcases List.append_eq_append_iff.1 h with ⟨m, rfl, hm⟩ | ⟨m, rfl, hm⟩
  · cases m with
    | nil => exact absurd (List.cons.inj hm).1 hne
    | cons e m => simp
  · cases m with
    | nil => exact absurd (List.cons.inj hm).1.symm hne
    | cons e m =>
      refine absurd ?_ hu
      rw [(List.cons.inj hm).1]
      simp

/-! ## An authority that ends early -/

/-- What is left of an authority that ends before the port is too short for
its three parts, unless two of them are empty. -/
theorem short_authority {user password host a : List Char} (hleft : a <+: head user password host)
    (hlt : a.length < (head user password host).length)
    (huser : user.length ≤ (partition ':' (rpartition '@' a).1).1.length)
    (hpassword : password.length ≤ (partition ':' (rpartition '@' a).1).2.length)
    (hhost : host.length ≤ (partition ':' (rpartition '@' a).2).1.length) :
    user = [] ∧ password = [] ∧ '@' ∉ a := by
  have hlen : (head user password host).length = user.length + password.length + host.length + 2 := by
    simp only [head, List.length_append, List.length_cons]
    omega
  have hsplit := length_rpartition '@' a
  have hinfo := length_partition ':' (rpartition '@' a).1
  have hspec := length_partition ':' (rpartition '@' a).2
  by_cases hat : '@' ∈ a
  · rw [if_pos hat] at hsplit
    obtain ⟨info, spec, rfl, hlast⟩ := exists_last hat
    rw [rpartition_append info hlast] at hsplit hinfo hspec huser hpassword hhost
    by_cases hcolon : ':' ∈ info
    · rw [if_pos hcolon] at hinfo
      dsimp only at *
      omega
    · -- the user would have to end before the first colon
      obtain ⟨rest, hrest⟩ := hleft
      have hcut : info ++ '@' :: (spec ++ rest) = user ++ ':' :: (password ++ '@' :: host) := by
        rw [← head, ← hrest]
        simp
      have hshort := length_lt_of_append_eq (by decide) hcolon hcut
      rw [partition_of_notMem hcolon] at huser
      dsimp only at huser
      omega
  · rw [rpartition_of_notMem hat] at huser hpassword
    have hnil : partition ':' [] = ([], []) := rfl
    rw [hnil] at huser hpassword
    exact ⟨List.length_eq_zero_iff.1 (Nat.le_zero.1 huser),
      List.length_eq_zero_iff.1 (Nat.le_zero.1 hpassword), hat⟩

/-! ## A whole authority -/

theorem endsAuthority_eq_false {c : Char} : endsAuthority c = false ↔ c ∉ ['/', '?', '#'] := by
  simp [endsAuthority, and_assoc]

theorem endsPath_eq_false {c : Char} : endsPath c = false ↔ c ∉ ['?', '#'] := by
  simp [endsPath]

theorem whole_authority {user password host : List Char}
    (h : Without ['/', '?', '#'] (head user password host)) (port : Int) (database : List Char) :
    authority (head user password host ++ tail port database) =
        user ++ ':' :: password ++ '@' :: (host ++ ':' :: (toString port).toList) ∧
      afterAuthority (head user password host ++ tail port database) = '/' :: database := by
  have hall : ∀ c ∈ head user password host ++ ':' :: (toString port).toList,
      (!endsAuthority c) = true := by
    intro c hc
    rw [Bool.not_eq_true', endsAuthority_eq_false]
    rcases List.mem_append.1 hc with hhead | htail
    · exact h c hhead
    · rcases List.mem_cons.1 htail with rfl | hport
      · decide
      · intro hstop
        have hne : c.isDigit = false ∧ c ≠ '-' := by
          simp only [List.mem_cons, List.not_mem_nil, or_false] at hstop
          rcases hstop with rfl | rfl | rfl <;> decide
        exact notMem_toString hne.1 hne.2 port hport
  have hbody : head user password host ++ tail port database =
      (head user password host ++ ':' :: (toString port).toList) ++ '/' :: database := by
    simp [tail]
  rw [authority, afterAuthority, hbody, List.takeWhile_append_of_pos hall,
    List.dropWhile_append_of_pos hall]
  have hslash : (!endsAuthority '/') = false := by decide
  constructor
  · simp [hslash, head]
  · simp [hslash]

/-! ## Reading the settings back -/

theorem takeWhile_path (database : List Char) :
    (('/' :: database).takeWhile fun c => !endsPath c).drop 1 =
      database.takeWhile fun c => !endsPath c := by
  have hslash : (!endsPath '/') = true := by decide
  rw [List.takeWhile_cons, if_pos hslash, List.drop_one, List.tail_cons]

theorem takeWhile_path_eq_iff {database : List Char} :
    (database.takeWhile fun c => !endsPath c) = database ↔ Without ['?', '#'] database := by
  rw [List.takeWhile_eq_self_iff]
  refine forall₂_congr fun c _ => ?_
  rw [Bool.not_eq_true', endsPath_eq_false]

theorem rpartition_whole {host : List Char} (h : '@' ∉ host) (info : List Char) (port : Int) :
    rpartition '@' (info ++ '@' :: (host ++ ':' :: (toString port).toList)) =
      (info, host ++ ':' :: (toString port).toList) := by
  apply rpartition_append
  intro hat
  rcases List.mem_append.1 hat with hhost | hport
  · exact h hhost
  · rcases List.mem_cons.1 hport with hcolon | hport
    · cases hcolon
    · exact notMem_toString (by decide) (by decide) port hport

theorem without_iff {user password host : List Char} :
    Without ['/', '?', '#'] (head user password host) ↔ Without ['/', '?', '#'] user ∧
      Without ['/', '?', '#'] password ∧ Without ['/', '?', '#'] host := by
  have hcolon : ':' ∉ ['/', '?', '#'] := by decide
  have hat : '@' ∉ ['/', '?', '#'] := by decide
  simp only [Without, head, List.forall_mem_append, List.forall_mem_cons]
  tauto

/-- The reserved characters of one part: those that end the authority and those
that split it. -/
theorem without_cons {c : Char} {reserved s : List Char} :
    Without (c :: reserved) s ↔ c ∉ s ∧ Without reserved s := by
  constructor
  · intro h
    refine ⟨fun hc => h c hc (List.mem_cons_self ..), fun d hd hmem => ?_⟩
    exact h d hd (List.mem_cons_of_mem _ hmem)
  · rintro ⟨hc, h⟩ d hd hmem
    rcases List.mem_cons.1 hmem with rfl | hmem
    · exact hc hd
    · exact h d hd hmem

theorem splitDsn_of_unreserved {self : Settings} (h : self.Unreserved) :
    splitDsn self.postgresDsn = self.parts := by
  obtain ⟨hcolonUser, huser⟩ := without_cons.1 h.user
  obtain ⟨hat, hhost⟩ := without_cons.1 h.host
  obtain ⟨hcolonHost, hhost⟩ := without_cons.1 hhost
  obtain ⟨hauthority, hafter⟩ := whole_authority (without_iff.2 ⟨huser, h.password, hhost⟩)
    self.postgresPort self.postgresDb.toList
  have hport : ¬HasEscape (toString self.postgresPort).toList := by
    rintro ⟨before, x, y, after, hs, -⟩
    refine notMem_toString (c := '%') (by decide) (by decide) self.postgresPort ?_
    rw [hs]
    simp
  rw [splitDsn_postgresDsn self _ rfl, hauthority, hafter, rpartition_whole hat,
    partition_append hcolonUser, partition_append hcolonHost, takeWhile_path,
    takeWhile_path_eq_iff.2 h.database]
  simp only [Settings.parts, (decodePart_iff _).2 h.user_plain, (decodePart_iff _).2 h.password_plain,
    (decodePart_iff _).2 h.host_plain, (decodePart_iff _).2 h.database_plain,
    (decodePart_iff _).2 hport, parseInt_toString]

/-- Parts that come back as long as they were leave the authority whole. -/
theorem without_of_lengths {user password host database : List Char} {port : Int} {a : List Char}
    (ha : a = authority (head user password host ++ tail port database))
    (huser : user.length ≤ (partition ':' (rpartition '@' a).1).1.length)
    (hpassword : password.length ≤ (partition ':' (rpartition '@' a).1).2.length)
    (hhost : host.length ≤ (partition ':' (rpartition '@' a).2).1.length) :
    Without ['/', '?', '#'] (head user password host) := by
  by_contra hstop
  have hends : ∃ c ∈ head user password host, (!endsAuthority c) = false := by
    simp only [Without, not_forall, not_not] at hstop
    obtain ⟨c, hc, hmem⟩ := hstop
    refine ⟨c, hc, ?_⟩
    rw [Bool.not_eq_false', ← Bool.not_eq_false, endsAuthority_eq_false, not_not]
    exact hmem
  obtain ⟨hleft, hlt⟩ := takeWhile_short hends (tail port database)
  rw [← authority, ← ha] at hleft hlt
  obtain ⟨rfl, rfl, hat⟩ := short_authority hleft hlt huser hpassword hhost
  -- a string that begins with ":@" has its at sign in the authority
  rw [ha] at hat
  refine hat ?_
  have hcolon : (!endsAuthority ':') = true := by decide
  have hsign : (!endsAuthority '@') = true := by decide
  rw [authority, head, List.nil_append, List.nil_append, List.cons_append, List.cons_append,
    List.takeWhile_cons, if_pos hcolon, List.takeWhile_cons, if_pos hsign]
  simp

/-- The host of a whole authority that comes back as long as it was. -/
theorem host_of_length {info host : List Char} {port : Int}
    (h : host.length ≤ (partition ':' (rpartition '@'
      (info ++ '@' :: (host ++ ':' :: (toString port).toList))).2).1.length) :
    '@' ∉ host ∧ ':' ∉ host := by
  have hat : '@' ∉ host := by
    intro hmem
    obtain ⟨x, y, rfl, hy⟩ := exists_last hmem
    have hcut : info ++ '@' :: (x ++ '@' :: y ++ ':' :: (toString port).toList) =
        (info ++ '@' :: x) ++ '@' :: (y ++ ':' :: (toString port).toList) := by
      simp
    rw [hcut, rpartition_whole hy] at h
    have hle := length_partition_le ':' y (toString port).toList
    simp only [List.length_append, List.length_cons] at h
    omega
  rw [rpartition_whole hat] at h
  exact ⟨hat, notMem_of_length_le h⟩

theorem unreserved_of_splitDsn {self : Settings} (h : splitDsn self.postgresDsn = self.parts) :
    self.Unreserved := by
  rw [splitDsn_postgresDsn self _ rfl, Settings.parts, DsnParts.mk.injEq] at h
  obtain ⟨huser, hpassword, hhost, -, hdatabase⟩ := h
  have hwhole := without_of_lengths rfl (length_le_of_decodePart huser)
    (length_le_of_decodePart hpassword) (length_le_of_decodePart hhost)
  obtain ⟨hauthority, hafter⟩ := whole_authority hwhole self.postgresPort self.postgresDb.toList
  rw [hauthority] at huser hpassword hhost
  rw [hafter, takeWhile_path] at hdatabase
  obtain ⟨hat, hcolonHost⟩ := host_of_length (length_le_of_decodePart hhost)
  rw [rpartition_whole hat] at huser hpassword hhost
  have hcolonUser := notMem_of_length_le (length_le_of_decodePart huser)
  rw [partition_append hcolonUser] at huser hpassword
  rw [partition_append hcolonHost] at hhost
  have hleft : (self.postgresDb.toList.takeWhile fun c => !endsPath c) <+:
      self.postgresDb.toList := List.takeWhile_prefix _
  have hwholePath := hleft.eq_of_length
    (Nat.le_antisymm hleft.length_le (length_le_of_decodePart hdatabase))
  rw [hwholePath] at hdatabase
  obtain ⟨hstopUser, hstopPassword, hstopHost⟩ := without_iff.1 hwhole
  exact {
    user := without_cons.2 ⟨hcolonUser, hstopUser⟩
    password := hstopPassword
    host := without_cons.2 ⟨hat, without_cons.2 ⟨hcolonHost, hstopHost⟩⟩
    database := takeWhile_path_eq_iff.1 hwholePath
    user_plain := (decodePart_iff _).1 huser
    password_plain := (decodePart_iff _).1 hpassword
    host_plain := (decodePart_iff _).1 hhost
    database_plain := (decodePart_iff _).1 hdatabase }

/-- **The settings are read back exactly when no part ends early and none has an
escape.** -/
theorem splitDsn_postgresDsn_iff (self : Settings) :
    splitDsn self.postgresDsn = self.parts ↔ self.Unreserved :=
  ⟨unreserved_of_splitDsn, splitDsn_of_unreserved⟩

/-- Of this password one piece becomes the host and another the database. -/
theorem splitDsn_reserved_password :
    splitDsn (Settings.postgresDsn { postgresPassword := "p@ss/9x" }) =
        { user := "university", password := "p", host := "ss", port := none,
          database := "9x@localhost:5432/university" } ∧
      splitDsn (Settings.postgresDsn { postgresPassword := "p@ss/9x" }) ≠
        Settings.parts { postgresPassword := "p@ss/9x" } := by
  decide +kernel

end UniversityQA.Config
