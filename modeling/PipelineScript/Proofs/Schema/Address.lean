/-
# Taking the address of a database apart

The URL of a connection is five texts with a delimiter between any two, and the
texts may have delimiters in them.  Where one of them has a delimiter of its own,
there is another place to cut the URL, with other texts on both sides
(`unique_at_cut`); for a complete connection it only counts as one if something is
left of the host and of the database.

So a connection is known from its URL just when there is no other place to cut
(`unique_iff_unmistakable`).  A user name may have `@` and `/` in it and a password
`/`, but no more than that.
-/
import Mathlib.Data.List.Basic
import PipelineScript.Schema.Connection

namespace PipelineScript

/-! ## Cuts -/

section Cuts
variable {α : Type} {x y x' y' : List α} {d d' : α}

/-- Two cuts of one list: at the same place, or one of them further on. -/
theorem cut_cases (h : x ++ d :: y = x' ++ d' :: y') :
    (x = x' ∧ d = d' ∧ y = y') ∨ (∃ z, x' = x ++ d :: z ∧ y = z ++ d' :: y') ∨
      ∃ z, x = x' ++ d' :: z ∧ y' = z ++ d :: y := by
  rcases List.append_eq_append_iff.mp h with ⟨z, hx, rest⟩ | ⟨z, hx, rest⟩
  · rcases List.cons_eq_append_iff.mp rest with ⟨rfl, hy⟩ | ⟨z, rfl, hy⟩
    · obtain ⟨hd, hy⟩ := List.cons.inj hy
      exact Or.inl ⟨by rw [hx, List.append_nil], hd.symm, hy.symm⟩
    · exact Or.inr (Or.inl ⟨z, hx, hy⟩)
  · rcases List.cons_eq_append_iff.mp rest with ⟨rfl, hy⟩ | ⟨z, rfl, hy⟩
    · obtain ⟨hd, hy⟩ := List.cons.inj hy
      exact Or.inl ⟨by rw [hx, List.append_nil], hd, hy⟩
    · exact Or.inr (Or.inr ⟨z, hx, hy⟩)

theorem cut_unique (front : d ∉ x) (h : x ++ d :: y = x' ++ d :: y') :
    (x = x' ∧ y = y') ∨ ∃ z, x' = x ++ d :: z ∧ y = z ++ d :: y' := by
  rcases cut_cases h with ⟨hx, -, hy⟩ | later | ⟨z, hx, -⟩
  · exact Or.inl ⟨hx, hy⟩
  · exact Or.inr later
  · rw [hx] at front
    exact absurd (List.mem_append_right x' List.mem_cons_self) front

theorem not_mem_of_no_cut (h : ∀ a b, x = a ++ d :: b → False) : d ∉ x := by
  intro hmem
  obtain ⟨a, b, hab⟩ := List.append_of_mem hmem
  exact h a b hab

/-- Two lists can be found again on the two sides of a delimiter only if there is
no other place to cut. -/
theorem unique_at_cut {P Q : List α → Prop}
    (unique : ∀ x' y', P x' → Q y' → x' ++ d :: y' = x ++ d :: y → x' = x) :
    (∀ a b, x = a ++ d :: b → Q (b ++ d :: y) → ¬ P a) ∧
      ∀ a b, y = a ++ d :: b → P (x ++ d :: a) → ¬ Q b := by
  constructor
  · rintro a b rfl hb ha
    have same := unique a (b ++ d :: y) ha hb (by rw [List.append_assoc, List.cons_append])
    exact List.cons_ne_nil d b (List.self_eq_append_right.mp same)
  · rintro a b rfl ha hb
    have same := unique (x ++ d :: a) b ha hb (by rw [List.append_assoc, List.cons_append])
    exact List.cons_ne_nil d a (List.self_eq_append_right.mp same.symm)

end Cuts

namespace Connection

/-- Something that is there to see. -/
def Visible (cs : List Char) : Prop :=
  cs.all Text.isBlank = false

theorem visible_append_cons {d : Char} (h : Text.isBlank d = false) (x y : List Char) :
    Visible (x ++ d :: y) := by
  rw [Visible, List.all_append, List.all_cons, h, Bool.false_and, Bool.and_false]

theorem isComplete_iff {c : Connection} :
    c.isComplete = true ↔ Visible c.host.toList ∧ Visible c.database.toList := by
  rw [isComplete, Bool.and_eq_true, Bool.not_eq_true', Bool.not_eq_true']
  rfl

theorem eq_of_toList {c c' : Connection} (hu : c.username.toList = c'.username.toList)
    (hp : c.password.toList = c'.password.toList) (hh : c.host.toList = c'.host.toList)
    (ho : c.port.toList = c'.port.toList) (hd : c.database.toList = c'.database.toList) :
    c' = c := by
  cases c
  cases c'
  rw [Connection.mk.injEq]
  exact ⟨String.toList_injective hu.symm, String.toList_injective hp.symm,
    String.toList_injective hh.symm, String.toList_injective ho.symm,
    String.toList_injective hd.symm⟩

/-- The user with the password, and the host. -/
def site (username password host : List Char) : List Char :=
  username ++ ':' :: (password ++ '@' :: host)

/-- The URL of a connection behind the scheme. -/
def address (c : Connection) : List Char :=
  site c.username.toList c.password.toList c.host.toList ++ ':' :: c.port.toList ++
    '/' :: c.database.toList

theorem toList_url (c : Connection) : c.url.toList = "mysql+pymysql://".toList ++ c.address := by
  have behind (scheme : String) : (scheme ++ c.username ++ ":" ++ c.password ++ "@" ++ c.host ++
      ":" ++ c.port ++ "/" ++ c.database).toList = scheme.toList ++ c.address := by
    simp [address, site]
  exact behind _

theorem url_eq_iff {c c' : Connection} : c.url = c'.url ↔ c.address = c'.address := by
  rw [← String.toList_inj, toList_url, toList_url, List.append_right_inj]

/-- There is only one way to take the URL apart.  Behind `@` there may be nothing but
blanks in a host, and in front of `:`; a database has nothing but blanks behind `/`,
since no host and no database is blank. -/
structure Unmistakable (c : Connection) : Prop where
  username : ':' ∉ c.username.toList
  password : ':' ∉ c.password.toList ∧ '@' ∉ c.password.toList
  hostEnd : ∀ a b, c.host.toList = a ++ '@' :: b → ¬ Visible b
  hostStart : ∀ a b, c.host.toList = a ++ ':' :: b → ¬ Visible a
  port : ':' ∉ c.port.toList ∧ '/' ∉ c.port.toList
  database : ∀ a b, c.database.toList = a ++ '/' :: b → ¬ Visible b

theorem unmistakable_of_lacks {c : Connection} (username : ':' ∉ c.username.toList)
    (password : ':' ∉ c.password.toList ∧ '@' ∉ c.password.toList)
    (host : ':' ∉ c.host.toList ∧ '@' ∉ c.host.toList)
    (port : ':' ∉ c.port.toList ∧ '/' ∉ c.port.toList) (database : '/' ∉ c.database.toList) :
    c.Unmistakable where
  username := username
  password := password
  hostEnd a _ h := absurd (h ▸ List.mem_append_right a List.mem_cons_self) host.2
  hostStart a _ h := absurd (h ▸ List.mem_append_right a List.mem_cons_self) host.1
  port := port
  database a _ h := absurd (h ▸ List.mem_append_right a List.mem_cons_self) database

/-! ## One way to take the URL apart -/

section Unmistakable
variable {c : Connection} (unmistakable : c.Unmistakable) {username password host : List Char}
include unmistakable

theorem Unmistakable.site_unique (visible : Visible host)
    (h : site c.username.toList c.password.toList c.host.toList = site username password host) :
    c.username.toList = username ∧ c.password.toList = password ∧ c.host.toList = host := by
  obtain ⟨colon, at_⟩ := unmistakable.password
  rcases cut_unique unmistakable.username h with ⟨hu, h⟩ | ⟨z, -, h⟩
  · rcases cut_unique at_ h with ⟨hp, hh⟩ | ⟨z, -, hh⟩
    · exact ⟨hu, hp, hh⟩
    · exact absurd visible (unmistakable.hostEnd z host hh)
  · -- a longer user name takes the `:` from the password or from the host
    rw [← List.cons_append, ← List.append_assoc] at h
    rcases cut_unique at_ h with ⟨hp, -⟩ | ⟨w, -, hh⟩
    · rw [hp] at colon
      exact absurd (List.mem_append_right z List.mem_cons_self) colon
    · exact absurd visible (unmistakable.hostEnd w host hh)

theorem Unmistakable.site_ne (visible : Visible host) (port : List Char) :
    site c.username.toList c.password.toList c.host.toList ≠
      site username password host ++ ':' :: port := by
  intro h
  have longer : site username password host ++ ':' :: port =
      site username password (host ++ ':' :: port) := by
    simp [site]
  rw [longer] at h
  have seen := visible_append_cons (d := ':') (by decide) host port
  obtain ⟨-, -, hh⟩ := unmistakable.site_unique seen h
  exact unmistakable.hostStart host port hh visible

/-- **A connection is known from its URL** if it is unmistakable. -/
theorem Unmistakable.eq_of_url_eq {c' : Connection} (complete : c'.isComplete = true)
    (h : c'.url = c.url) : c' = c := by
  obtain ⟨host, database⟩ := isComplete_iff.mp complete
  obtain ⟨colon, slash⟩ := unmistakable.port
  have same := (url_eq_iff.mp h).symm
  rcases cut_cases same with ⟨front, -, hd⟩ | ⟨z, -, hd⟩ | ⟨z, front, -⟩
  · rcases cut_cases front with ⟨site, -, ho⟩ | ⟨z, -, ho⟩ | ⟨z, site, -⟩
    · obtain ⟨hu, hp, hh⟩ := unmistakable.site_unique host site
      exact eq_of_toList hu hp hh ho hd
    · rw [ho] at colon
      exact absurd (List.mem_append_right z List.mem_cons_self) colon
    · exact absurd site (unmistakable.site_ne host z)
  · exact absurd database (unmistakable.database z _ hd)
  · -- the other database begins in the port, or in the host
    rcases cut_cases front with ⟨-, mark, -⟩ | ⟨w, -, ho⟩ | ⟨w, site, -⟩
    · cases mark
    · rw [ho] at slash
      exact absurd (List.mem_append_right w List.mem_cons_self) slash
    · rw [List.append_assoc, List.cons_append] at site
      exact absurd site (unmistakable.site_ne host _)

end Unmistakable

/-! ## Other ways to take the URL apart -/

section Unique
variable {c : Connection}
  (unique : ∀ c' : Connection, c'.isComplete = true → c'.url = c.url → c' = c)
include unique

theorem eq_of_address_eq (u p h o d : List Char) (host : Visible h) (database : Visible d)
    (same : site u p h ++ ':' :: o ++ '/' :: d = c.address) :
    c = ⟨.ofList u, .ofList p, .ofList h, .ofList o, .ofList d⟩ := by
  refine (unique _ (isComplete_iff.mpr ?_) (url_eq_iff.mpr ?_)).symm
  · rw [String.toList_ofList, String.toList_ofList]
    exact ⟨host, database⟩
  · simpa only [address, String.toList_ofList] using same

theorem unmistakable_of_unique (complete : c.isComplete = true) : c.Unmistakable := by
  obtain ⟨host, database⟩ := isComplete_iff.mp complete
  have known := eq_of_address_eq unique
  have afterUser := @unique_at_cut _ c.username.toList c.password.toList ':' (fun _ => True)
    (fun _ => True) fun x y _ _ h => by
      have same := congrArg (· ++ '@' :: c.host.toList ++ ':' :: c.port.toList ++
        '/' :: c.database.toList) h
      rw [known x y _ _ _ host database (by simpa [address, site] using same),
        String.toList_ofList]
  have afterPassword := @unique_at_cut _ c.password.toList c.host.toList '@' (fun _ => True)
    Visible fun x y _ hy h => by
      have same := congrArg (c.username.toList ++ ':' :: · ++ ':' :: c.port.toList ++
        '/' :: c.database.toList) h
      rw [known _ x y _ _ hy database same, String.toList_ofList]
  have afterHost := @unique_at_cut _ c.host.toList c.port.toList ':' Visible
    (fun _ => True) fun x y hx _ h => by
      have same := congrArg (· ++ '/' :: c.database.toList) h
      rw [known c.username.toList c.password.toList x y _ hx database
        (by simpa [address, site] using same), String.toList_ofList]
  have afterPort := @unique_at_cut _ c.port.toList c.database.toList '/' (fun _ => True)
    Visible fun x y _ hy h => by
      rw [known c.username.toList c.password.toList _ x y host hy (by simpa [address] using h),
        String.toList_ofList]
  have seen := @visible_append_cons
  refine ⟨?_, ⟨?_, ?_⟩, ?_, ?_, ⟨?_, ?_⟩, ?_⟩
  · exact not_mem_of_no_cut fun a b h => afterUser.1 a b h trivial trivial
  · exact not_mem_of_no_cut fun a b h => afterUser.2 a b h trivial trivial
  · exact not_mem_of_no_cut fun a b h => afterPassword.1 a b h (seen (by decide) b _) trivial
  · exact fun a b h => afterPassword.2 a b h trivial
  · exact fun a b h => afterHost.1 a b h trivial
  · exact not_mem_of_no_cut fun a b h => afterHost.2 a b h (seen (by decide) _ a) trivial
  · exact not_mem_of_no_cut fun a b h => afterPort.1 a b h (seen (by decide) b _) trivial
  · exact fun a b h => afterPort.2 a b h trivial

end Unique

/-- **A complete connection is known from its URL** just when it is unmistakable. -/
theorem unique_iff_unmistakable {c : Connection} (complete : c.isComplete = true) :
    (∀ c' : Connection, c'.isComplete = true → c'.url = c.url → c' = c) ↔ c.Unmistakable :=
  ⟨fun unique => unmistakable_of_unique unique complete,
    fun unmistakable _ complete' h => unmistakable.eq_of_url_eq complete' h⟩

end Connection

end PipelineScript
