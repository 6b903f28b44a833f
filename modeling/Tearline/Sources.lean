import Tearline.Fixtures

/-!
# The filesystem as a source system

A POSIX file's group and mode bits stand in for an access control list: the group is mapped
to a tenant, and the bit that lets anyone read becomes the role {lit}`everyone`.  The group
database of the host is a parameter.

Main results:

- Theorem {lit}`FilesystemSource.documents_get?_eq_some_iff`: one document for each file.
- Theorem {lit}`FilesystemSource.entitled_documentOf_iff`: whom a file's document entitles.
- Theorem {lit}`grantedByMode_iff`: when that is what the mode grants.
-/

namespace Tearline

/-! ## Reading documents -/

/-- `stat.S_IROTH` -/
def worldReadable : Nat := 0o004

/-- What walking the tree reports of one path; {lit}`ctime` is in microseconds. -/
structure FileEntry where
  path : String
  name : String
  isFile : Bool := true
  gid : Nat
  mode : Nat
  ctime : Int
deriving DecidableEq

/-- A sorted walk of a tree, which meets every path once. -/
structure FileTree where
  entries : List FileEntry
  distinct : (entries.map FileEntry.path).Nodup

/-- The group database: the name of a group id, when there is one. -/
abbrev GroupDatabase := Nat → Option String

/-- A tree and the tenant each group of readers belongs to. -/
structure FilesystemSource where
  root : FileTree
  groupToTenant : Dict String String
  system : String := "posix-filesystem"

namespace FilesystemSource

/-- The source's `_tenant_for`. -/
def tenantFor (source : FilesystemSource) (getgrgid : GroupDatabase) (gid : Nat) :
    Option String :=
  match getgrgid gid with
  | none => none
  | some group => source.groupToTenant.get? group

/-- The entitlement built for a file; an empty tenant is as good as none. -/
def entitlementOf (source : FilesystemSource) (getgrgid : GroupDatabase) (info : FileEntry) :
    Entitlement :=
  let roles : Finset String :=
    if info.mode &&& worldReadable ≠ 0 then {"everyone"} else {"member"}
  match source.tenantFor getgrgid info.gid with
  | none => { state := .unknown }
  | some tenant =>
      if tenant ≠ "" then { state := .stated, tenants := {tenant}, roles := roles }
      else { state := .unknown }

/-- The document built for a file. -/
def documentOf (source : FilesystemSource) (getgrgid : GroupDatabase) (info : FileEntry) :
    SourceDocument where
  id := info.path
  system := source.system
  label := some info.name
  aclModifiedAt := some (.aware info.ctime)
  entitlement := source.entitlementOf getgrgid info

/-- One document per file, keyed by path relative to the root. -/
def documents (source : FilesystemSource) (getgrgid : GroupDatabase) :
    Dict String SourceDocument :=
  Dict.ofValues SourceDocument.id
    ((source.root.entries.filter FileEntry.isFile).map (source.documentOf getgrgid))

/-- The documents are those of the files, each under its path. -/
theorem documents_get?_eq_some_iff (source : FilesystemSource) (getgrgid : GroupDatabase)
    (path : String) (document : SourceDocument) :
    (source.documents getgrgid).get? path = some document ↔
      ∃ info ∈ source.root.entries, info.isFile = true ∧ info.path = path ∧
        document = source.documentOf getgrgid info := by
  have hnodup : (((source.root.entries.filter FileEntry.isFile).map
      (source.documentOf getgrgid)).map SourceDocument.id).Nodup := by
    rw [List.map_map]
    exact source.root.distinct.sublist (List.filter_sublist.map FileEntry.path)
  rw [documents, Dict.get?_ofValues_eq_some_iff hnodup, List.mem_map]
  constructor
  · intro hlisted
    rcases hlisted with ⟨⟨info, hinfo, rfl⟩, hpath⟩
    rcases List.mem_filter.mp hinfo with ⟨hentry, hfile⟩
    exact ⟨info, hentry, hfile, hpath, rfl⟩
  · intro hheld
    rcases hheld with ⟨info, hentry, hfile, hpath, rfl⟩
    exact ⟨⟨info, List.mem_filter.mpr ⟨hentry, hfile⟩, rfl⟩, hpath⟩

end FilesystemSource

/-! ## What the documents grant -/

/-- `stat.S_IRGRP` -/
def groupReadable : Nat := 0o040

/-- The rule of a filesystem: a member of the tenant who holds a role of the file or is
listed. -/
def filesystemRule (system : String) : EntitlementRule where
  system := system
  tenant := .member
  role := .intersectsOrEveryone
  direct := .principalListed
  combine := .tenantAndRoleOrDirect

/-- The principal belongs to the tenant the file's group is mapped to, and the mode grants
read to the group or to others. -/
def GrantedByMode (source : FilesystemSource) (getgrgid : GroupDatabase) (info : FileEntry)
    (principal : Principal) : Prop :=
  ∃ tenant, source.tenantFor getgrgid info.gid = some tenant ∧
    principal.tenant = some tenant ∧
    (info.mode &&& groupReadable ≠ 0 ∨ info.mode &&& worldReadable ≠ 0)

/-- The tenant clause {lit}`member` holds of the members of one of the tenants. -/
theorem tenantHolds_member_iff (ent : Entitlement) (principal : Principal) :
    tenantHolds .member ent principal = true ↔
      ∃ tenant ∈ ent.tenants, principal.tenant = some tenant := by
  by_cases hempty : ent.tenants = ∅
  · simp [tenantHolds, hempty]
  · cases htenant : principal.tenant with
    | none => simp [tenantHolds, hempty, htenant]
    | some own => simp [tenantHolds, hempty, htenant]

private theorem roleHolds_intersectsOrEveryone_iff (ent : Entitlement) (principal : Principal) :
    roleHolds .intersectsOrEveryone ent principal = true ↔
      "everyone" ∈ ent.roles ∨ ∃ role ∈ ent.roles, role ∈ principal.roles := by
  by_cases hempty : ent.roles = ∅
  · simp [roleHolds, hempty]
  · by_cases heveryone : "everyone" ∈ ent.roles
    · simp [roleHolds, hempty, heveryone]
    · simp [roleHolds, hempty, heveryone, ← Finset.nonempty_iff_ne_empty, Finset.Nonempty]

/-- Whom the rule of a filesystem entitles. -/
theorem entitled_filesystemRule_iff (system : String) (ent : Entitlement)
    (principal : Principal) :
    (filesystemRule system).entitled ent principal = true ↔
      ent.state = .stated ∧ (∃ tenant ∈ ent.tenants, principal.tenant = some tenant) ∧
        (("everyone" ∈ ent.roles ∨ ∃ role ∈ ent.roles, role ∈ principal.roles) ∨
          principal.id ∈ ent.principals) := by
  rw [← tenantHolds_member_iff, ← roleHolds_intersectsOrEveryone_iff]
  simp [EntitlementRule.entitled, filesystemRule, Combinator.combine, directHolds]

/-- A file's document entitles the members of its tenant: all of them when anyone may read
the file, and those with the role {lit}`member` otherwise. -/
theorem FilesystemSource.entitled_documentOf_iff (source : FilesystemSource)
    (getgrgid : GroupDatabase) (info : FileEntry) (system : String) (principal : Principal) :
    (filesystemRule system).entitled (source.documentOf getgrgid info).entitlement principal =
        true ↔
      ∃ tenant, source.tenantFor getgrgid info.gid = some tenant ∧
        principal.tenant = some tenant ∧ tenant ≠ "" ∧
        (info.mode &&& worldReadable ≠ 0 ∨ "member" ∈ principal.roles) := by
  rw [entitled_filesystemRule_iff]
  unfold documentOf entitlementOf
  cases hgroup : source.tenantFor getgrgid info.gid with
  | none => simp
  | some tenant =>
      by_cases hempty : tenant = ""
      · simp [hempty]
      · by_cases hworld : info.mode &&& worldReadable = 0
        · simp [hempty, hworld]
        · simp [hempty, hworld]

/-- A file's document grants no more than its mode exactly when it is not the case that
neither the group nor others may read the file and the principal is a member of the
tenant. -/
theorem grantedByMode_iff {source : FilesystemSource} {info : FileEntry}
    (hentry : info ∈ source.root.entries) (hfile : info.isFile = true)
    (getgrgid : GroupDatabase) (system : String) (principal : Principal) :
    (∀ document, (source.documents getgrgid).get? info.path = some document →
        (filesystemRule system).entitled document.entitlement principal = true →
          GrantedByMode source getgrgid info principal) ↔
      ¬ (info.mode &&& groupReadable = 0 ∧ info.mode &&& worldReadable = 0 ∧
        "member" ∈ principal.roles ∧
        ∃ tenant, tenant ≠ "" ∧ source.tenantFor getgrgid info.gid = some tenant ∧
          principal.tenant = some tenant) := by
  have hfound := (source.documents_get?_eq_some_iff getgrgid info.path _).mpr
    ⟨info, hentry, hfile, rfl, rfl⟩
  rw [hfound]
  simp only [Option.some.injEq, forall_eq', FilesystemSource.entitled_documentOf_iff]
  constructor
  · intro hsound hdefect
    rcases hdefect with ⟨hgroup, hworld, hmember, tenant, hnonempty, htenant, hown⟩
    rcases hsound ⟨tenant, htenant, hown, hnonempty, Or.inr hmember⟩ with ⟨-, -, -, hbits⟩
    exact hbits.elim (· hgroup) (· hworld)
  · intro hmode hentitled
    rcases hentitled with ⟨tenant, htenant, hown, hnonempty, hreads⟩
    refine ⟨tenant, htenant, hown, ?_⟩
    by_contra hbits
    simp only [ne_eq, not_or, not_not] at hbits
    rcases hreads with hworld | hmember
    · exact hworld hbits.2
    · exact hmode ⟨hbits.1, hbits.2, hmember, tenant, hnonempty, htenant, hown⟩

/-- A file nobody but its owner may read. -/
def privateFile : FileEntry where
  path := "private.txt"
  name := "private.txt"
  gid := 100
  mode := 0o100600
  ctime := 0

/-- A share of one tenant that holds it. -/
def share : FilesystemSource where
  root := { entries := [privateFile], distinct := List.nodup_singleton _ }
  groupToTenant := Dict.set ∅ "staff" "acme"

/-- The group database of its host. -/
def hostGroups : GroupDatabase := fun gid => if gid = 100 then some "staff" else none

/-- A member of the tenant. -/
def shareMember : Principal where
  id := "p-member"
  label := "Member"
  tenant := some "acme"
  roles := {"member"}

theorem grantedByMode_iff_share :
    (∀ document, (share.documents hostGroups).get? privateFile.path = some document →
        (filesystemRule "posix-filesystem").entitled document.entitlement shareMember = true →
          GrantedByMode share hostGroups privateFile shareMember) ↔
      ¬ (privateFile.mode &&& groupReadable = 0 ∧ privateFile.mode &&& worldReadable = 0 ∧
        "member" ∈ shareMember.roles ∧
        ∃ tenant, tenant ≠ "" ∧ share.tenantFor hostGroups privateFile.gid = some tenant ∧
          shareMember.tenant = some tenant) :=
  grantedByMode_iff (List.mem_singleton_self privateFile) rfl hostGroups "posix-filesystem"
    shareMember

/-- A file only its owner may read entitles every member of its tenant. -/
theorem privateFile_granted :
    (∃ document, (share.documents hostGroups).get? privateFile.path = some document ∧
      (filesystemRule "posix-filesystem").entitled document.entitlement shareMember = true) ∧
      ¬ GrantedByMode share hostGroups privateFile shareMember := by
  refine ⟨⟨share.documentOf hostGroups privateFile, by decide +kernel, by decide +kernel⟩, ?_⟩
  intro hgranted
  rcases hgranted with ⟨-, -, -, hbits⟩
  exact hbits.elim (· (by decide)) (· (by decide))

end Tearline
