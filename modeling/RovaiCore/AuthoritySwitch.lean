import RovaiCore.AuthorityDisk
import RovaiCore.Interruption
/-!
# The switch to a migrated authority database (`authority_migration.rs`)

The writer of a snapshot switch preserves the original files, writes its manifest, detaches the sidecars, publishes the migrated
copy and removes the manifest.
-/
namespace Rovai.Authority

open Fallible

/-! ## Paths -/

inductive Component where
  | prefix_ | rootDir | curDir | parentDir
  | normal (name : List Char)

def isSeparator (platform : Platform) (c : Char) : Bool :=
  c == '/' || (platform == .windows && c == '\\')

def component : List Char → Option Component
  | [] | ['.'] => none
  | ['.', '.'] => some .parentDir
  | name => some (.normal name)

def drivePrefix (platform : Platform) : List Char → List Component
  | c :: ':' :: _ => if platform == .windows && c.isAlpha then [.prefix_] else []
  | _ => []

def components (platform : Platform) (value : List Char) : List Component :=
  drivePrefix platform value ++
    match value.splitOnP (isSeparator platform) with
    | [] => []
    | first :: rest =>
      (if first = [] ∧ rest ≠ [] then some .rootDir else if first = ['.'] then some .curDir else component first).toList ++
        rest.filterMap component

def isLeaf (platform : Platform) (value : String) : Bool :=
  match components platform value.toList with
  | [.normal _] => true
  | _ => false

structure Uuid where
  text : String
  hyphenated : ∀ c ∈ text.toList, c.isAlphanum || c == '-'

theorem Uuid.ext {id id' : Uuid} (h : id.text = id'.text) : id = id' := by
  cases id
  cases id'
  cases h
  rfl

instance : DecidableEq Uuid := fun id id' =>
  if h : id.text = id'.text then .isTrue (Uuid.ext h) else .isFalse fun heq => h (heq ▸ rfl)

/-! ## The manifest -/

inductive MigrationSwitchStage where
  | prepared | sidecarsDetached | published

structure MigrationManifestArtifact where
  kind : AuthorityArtifactKind
  (sourceFileName backupFileName : String)
  detachedFileName : Option String
  (sourceIdentity backupIdentity : AuthorityArtifactIdentityToken)

structure AuthorityMigrationManifest where
  schemaVersion : Nat
  operationId : Uuid
  authorityNamespace : AuthorityNamespace
  (sourceFileName stagingFileName : String)
  backupOperationId : Uuid
  (sourceMainIdentity migratedMainIdentity : AuthorityArtifactIdentityToken)
  artifacts : List MigrationManifestArtifact
  stage : MigrationSwitchStage

inductive MigrationError where
  | io (code operation : String) (path : Path)
  | operation (code message : String) (path : Option Path)
  | blocked (block message : String)
  | panic (message : String)

def mainFileName : AuthorityNamespace → String
  | .rovai => "rovai.sqlite"
  | .lumen => "lumen.sqlite"

def artifactFileName (authority : AuthorityNamespace) : AuthorityArtifactKind → String
  | .main => mainFileName authority
  | .wal => mainFileName authority ++ "-wal"
  | .rollbackJournal => mainFileName authority ++ "-journal"
  | .shm => mainFileName authority ++ "-shm"

def artifactKindName : AuthorityArtifactKind → String
  | .main => "main.sqlite"
  | .wal => "wal"
  | .rollbackJournal => "journal"
  | .shm => "shm"

def stagingFileName (operationId : Uuid) : String :=
  ".rovai-authority-migration-" ++ operationId.text ++ ".sqlite"

def manifestPath : Path := ⟨.data, ".rovai-authority-migration-v1.json"⟩

namespace AuthorityMigrationManifest

variable (m : AuthorityMigrationManifest)

def source : Path := ⟨.data, m.sourceFileName⟩
def staging : Path := ⟨.data, m.stagingFileName⟩
def inBackup (name : String) : Path := ⟨.backup m.backupOperationId.text, name⟩

def sidecars : List MigrationManifestArtifact :=
  m.artifacts.filter (fun artifact => artifact.kind != .main)

end AuthorityMigrationManifest

/-! ## The directory -/

/-- The files by their paths, no object at two of them, the manifest, and how many changes there have been. -/
structure Disk where
  files : Finmap fun _ : Path => File
  manifest : Option AuthorityMigrationManifest
  ticks : Nat
  objects : ∀ {p q f g}, files.lookup p = some f → files.lookup q = some g → f.object = g.object → p = q

/-- The system below: its clock at each change, and the object that it makes for a new file. -/
structure Host where
  platform : Platform
  clock : Nat → Int × Int
  newObject : Disk → Nat
  fresh : ∀ (d : Disk) (p : Path) (f : File), d.files.lookup p = some f → f.object ≠ newObject d

namespace Disk

variable (d : Disk) (host : Host) (path : Path)

def observeAuthorityIdentityToken : Option AuthorityArtifactIdentityToken :=
  (d.files.lookup path).map (identityToken host.platform)

def renamed (file : File) : File :=
  { file with ctime := (host.clock d.ticks).1, ctimeNsec := (host.clock d.ticks).2 }

theorem sameFile_renamed (file : File) : SameFile file (d.renamed host file) :=
  ⟨rfl, rfl, rfl, rfl⟩

theorem lookup_moved {files : Finmap fun _ : Path => File} {source destination p : Path} {file : File} :
    ((files.erase source).insert destination file).lookup p =
      if p = destination then some file else if p = source then none else files.lookup p := by
  by_cases hd : p = destination
  · subst hd
    rw [if_pos rfl, Finmap.lookup_insert]
  · rw [if_neg hd, Finmap.lookup_insert_of_ne _ hd]
    by_cases hs : p = source
    · subst hs
      rw [if_pos rfl, Finmap.lookup_erase]
    · rw [if_neg hs, Finmap.lookup_erase_ne hs]

def move (source destination : Path) (file : File) (h : d.files.lookup source = some file) : Disk where
  files := (d.files.erase source).insert destination (d.renamed host file)
  manifest := d.manifest
  ticks := d.ticks + 1
  objects := by
    -- What is at a path afterwards is an object that was somewhere before.
    have hbefore : ∀ {p f}, ((d.files.erase source).insert destination (d.renamed host file)).lookup p = some f →
        p = destination ∧ f.object = file.object ∨ p ≠ destination ∧ p ≠ source ∧ d.files.lookup p = some f := by
      intro p f hf
      rw [lookup_moved] at hf
      split at hf
      · cases hf
        exact .inl ⟨‹_›, rfl⟩
      · split at hf
        · cases hf
        · exact .inr ⟨‹_›, ‹_›, hf⟩
    intro p q f g hf hg hobject
    obtain ⟨hp, hfile⟩ | ⟨hp, hps, hf'⟩ := hbefore hf
    · obtain ⟨hq, -⟩ | ⟨hq, hqs, hg'⟩ := hbefore hg
      · rw [hp, hq]
      · exact absurd (d.objects hg' h (hobject.symm.trans hfile)) hqs
    · obtain ⟨hq, hfile⟩ | ⟨hq, hqs, hg'⟩ := hbefore hg
      · exact absurd (d.objects hf' h (hobject.trans hfile)) hps
      · exact d.objects hf' hg' hobject

def rename (source destination : Path) : Option Disk :=
  match h : d.files.lookup source with
  | none => none
  | some file => some (d.move host source destination file h)

def remove : Disk where
  files := d.files.erase path
  manifest := d.manifest
  ticks := d.ticks
  objects := by
    intro p q f g hf hg hobject
    have hne : ∀ {r h}, (d.files.erase path).lookup r = some h → d.files.lookup r = some h := by
      intro r h hr
      by_cases hrp : r = path
      · subst hrp
        rw [Finmap.lookup_erase] at hr
        cases hr
      · rwa [Finmap.lookup_erase_ne hrp] at hr
    exact d.objects (hne hf) (hne hg) hobject

def removeFile : Option Disk :=
  if (d.files.lookup path).isSome then some (d.remove path) else none

def put (file : File)
    (h : ∀ p f, p ≠ path → d.files.lookup p = some f → f.object ≠ file.object) : Disk where
  files := d.files.insert path file
  manifest := d.manifest
  ticks := d.ticks + 1
  objects := by
    have hcases : ∀ {p f}, (d.files.insert path file).lookup p = some f →
        p = path ∧ f = file ∨ p ≠ path ∧ d.files.lookup p = some f := by
      intro p f hf
      by_cases hp : p = path
      · subst hp
        rw [Finmap.lookup_insert] at hf
        cases hf
        exact .inl ⟨rfl, rfl⟩
      · rw [Finmap.lookup_insert_of_ne _ hp] at hf
        exact .inr ⟨hp, hf⟩
    intro p q f g hf hg hobject
    obtain ⟨hp, hfile⟩ | ⟨hp, hf'⟩ := hcases hf
    · obtain ⟨hq, -⟩ | ⟨hq, hg'⟩ := hcases hg
      · rw [hp, hq]
      · exact absurd (hobject.symm.trans (congrArg File.object hfile)) (h _ _ hq hg')
    · obtain ⟨hq, hfile⟩ | ⟨hq, hg'⟩ := hcases hg
      · exact absurd (hobject.trans (congrArg File.object hfile)) (h _ _ hp hf')
      · exact d.objects hf' hg' hobject

def createDataNewFile : Option Disk :=
  if (d.files.lookup path).isSome then none
  else
    let now := host.clock d.ticks
    some (d.put path ⟨host.newObject d, [], now.1, now.2, now.1, now.2⟩ fun p f _ hf => host.fresh d p f hf)

def write (content : List UInt8) : Option Disk :=
  match h : d.files.lookup path with
  | none => none
  | some file =>
    let now := host.clock d.ticks
    some (d.put path ⟨file.object, content, now.1, now.2, now.1, now.2⟩
      fun _ _ hne hf hobject => hne (d.objects hf h hobject))

def writeManifest (m : AuthorityMigrationManifest) : Disk :=
  { d with manifest := some m, ticks := d.ticks + 1 }

def backupCollision (operationId : Uuid) : Bool :=
  decide (∃ p ∈ d.files.keys, p.directory = .backup operationId.text)

end Disk

/-! ## Steps -/

abbrev Switch := Procedure Disk MigrationError

def change (f : Disk → Option Disk) (error : MigrationError) : Switch Unit :=
  Procedure.act fun d => orError (f d) error

variable (host : Host)

def observeIdentity (path : Path) : Switch (Option AuthorityArtifactIdentityToken) :=
  Procedure.ask fun d => d.observeAuthorityIdentityToken host path

def copyAuthorityFile (source destination : Path) : Switch Unit := do
  let file ← Procedure.observe fun d => orError (d.files.lookup source)
    (.io "authority_migration_backup_source_open_failed" "open authority artifact for preservation" source)
  change (·.createDataNewFile host destination)
    (.io "authority_migration_backup_destination_create_failed" "create preserved authority artifact" destination)
  change (·.write host destination file.content)
    (.io "authority_migration_backup_copy_failed" "copy authority artifact for preservation" source)

variable (m : AuthorityMigrationManifest) (artifact : MigrationManifestArtifact)

def detachedPath : Switch Path :=
  match artifact.detachedFileName with
  | some name => pure (m.inBackup name)
  | none => Procedure.fail (.panic "non-main migration artifact has detached name")

def removeManifest (code operation : String) : Switch Unit :=
  change (fun d => if d.manifest.isSome then some { d with manifest := none } else none)
    (.io code operation manifestPath)

/-! ## Recovery -/

def restoreFromBackup : Switch Unit := do
  let backup := m.inBackup artifact.backupFileName
  match ← observeIdentity host backup with
  | none =>
    Procedure.fail (.io "authority_migration_backup_sidecar_observation_failed" "observe preserved authority sidecar" backup)
  | some backupIdentity =>
    if backupIdentity ≠ artifact.backupIdentity then
      Procedure.fail (.operation "authority_migration_backup_sidecar_changed" "preserved authority sidecar changed" backup)
    else copyAuthorityFile host backup ⟨.data, artifact.sourceFileName⟩

def restoreDetached : Switch Unit := do
  let detached ← detachedPath m artifact
  match ← observeIdentity host detached with
  | some identity =>
    if identity.matchesLegacyRename host.platform artifact.sourceIdentity then
      change (·.rename host detached ⟨.data, artifact.sourceFileName⟩)
        (.io "authority_migration_sidecar_restore_failed" "restore detached authority sidecar" ⟨.data, artifact.sourceFileName⟩)
    else
      Procedure.fail (.operation "authority_migration_detached_sidecar_changed" "detached authority sidecar changed" detached)
  | none => restoreFromBackup host m artifact

def restoreOriginalSidecar :
    Switch Unit := do
  let source : Path := ⟨.data, artifact.sourceFileName⟩
  match ← observeIdentity host source with
  | some identity =>
    if identity.matchesLegacyRename host.platform artifact.sourceIdentity then pure ()
    else
      Procedure.fail (.operation "authority_migration_restore_target_changed" "refused to overwrite changed authority sidecar"
        source)
  | none => restoreDetached host m artifact

def restoreOriginalSidecars : Switch Unit :=
  m.sidecars.forM (restoreOriginalSidecar host m)

def preserveStrayOriginalSidecar :
    Switch Unit := do
  let source : Path := ⟨.data, artifact.sourceFileName⟩
  match ← observeIdentity host source with
  | none => pure ()
  | some identity =>
    if identity = artifact.sourceIdentity then do
      let recovered := m.inBackup ("recovered-" ++ artifactKindName artifact.kind)
      if ← Procedure.ask (fun d => (d.files.lookup recovered).isSome) then
        Procedure.fail (.operation "authority_migration_recovered_sidecar_collision" "recovered sidecar path already exists"
          recovered)
      else
        change (·.rename host source recovered) (.io "authority_migration_stray_sidecar_preserve_failed"
          "preserve original sidecar after published migration" source)
    else
      Procedure.fail (.operation "authority_migration_published_sidecar_unknown"
        "unknown sidecar appeared beside published authority database" source)

def preserveStrayOriginalSidecars : Switch Unit :=
  m.sidecars.forM (preserveStrayOriginalSidecar host m)

def removeGeneratedFileIfIdentity (path : Path) (expected : AuthorityArtifactIdentityToken) : Switch Unit := do
  match ← observeIdentity host path with
  | none => pure ()
  | some identity =>
    if identity = expected then
      change (·.removeFile path)
        (.io "authority_migration_staging_cleanup_failed" "remove recovered migration staging file" path)
    else
      Procedure.fail (.operation "authority_migration_staging_identity_changed"
        "refused to remove changed migration staging file" path)

def readManifest : Switch AuthorityMigrationManifest := do
  let m ← Procedure.observe fun d => orError d.manifest (.io "authority_migration_manifest_observation_failed"
    "observe authority migration manifest" manifestPath)
  if m.schemaVersion ≠ 1 then
    Procedure.fail (.operation "authority_migration_manifest_schema_unknown" "unsupported authority migration manifest schema"
      none)
  else pure m

variable (platform : Platform)

def invalidMainPath (m : AuthorityMigrationManifest) : Bool :=
  m.sourceFileName != mainFileName m.authorityNamespace || m.stagingFileName != stagingFileName m.operationId ||
    m.backupOperationId != m.operationId || !isLeaf platform m.sourceFileName || !isLeaf platform m.stagingFileName

def invalidArtifactPath (artifact : MigrationManifestArtifact) : Bool :=
  !isLeaf platform artifact.sourceFileName || !isLeaf platform artifact.backupFileName ||
    artifact.detachedFileName.any (!isLeaf platform ·)

def validateManifestPaths (m : AuthorityMigrationManifest) : Switch Unit :=
  if invalidMainPath platform m then
    Procedure.fail (.blocked "migration manifest contains an invalid authority path" "migration manifest path validation failed")
  else if m.artifacts.any (invalidArtifactPath platform) then
    Procedure.fail (.operation "authority_migration_manifest_artifact_path_invalid"
      "migration manifest contains an invalid artifact path" none)
  else pure ()

def settleInterruptedSwitch : Switch Unit := do
  match ← observeIdentity host m.source with
  | none =>
    Procedure.fail (.io "authority_migration_recovery_source_identity_failed"
      "observe interrupted migration authority target" m.source)
  | some current =>
    if current = m.sourceMainIdentity then do
      restoreOriginalSidecars host m
      removeGeneratedFileIfIdentity host m.staging m.migratedMainIdentity
    else if current.matchesLegacyRename host.platform m.migratedMainIdentity then preserveStrayOriginalSidecars host m
    else
      Procedure.fail (.blocked
        "authority main-file identity matches neither the original nor the validated migration copy"
        "interrupted migration cannot be recovered automatically")

def recoverInterruptedSwitch : Switch Unit := do
  let m ← readManifest
  validateManifestPaths host.platform m
  settleInterruptedSwitch host m
  removeManifest "authority_migration_recovery_manifest_remove_failed" "remove recovered migration manifest"

def startup : Switch Unit := do
  if ← Procedure.ask (fun d => d.manifest.isSome) then recoverInterruptedSwitch host else pure ()

/-! ## The writer -/

structure SourceArtifact where
  kind : AuthorityArtifactKind
  path : Path
  identity : AuthorityArtifactIdentityToken

def observeSourceArtifacts (authority : AuthorityNamespace) (d : Disk) : List SourceArtifact :=
  [AuthorityArtifactKind.main, .wal, .rollbackJournal, .shm].filterMap fun kind =>
    let path : Path := ⟨.data, artifactFileName authority kind⟩
    (d.observeAuthorityIdentityToken host path).map (SourceArtifact.mk kind path)

def preserveArtifact (operationId : Uuid) (artifact : SourceArtifact) : Switch MigrationManifestArtifact := do
  let backupFileName := "original-" ++ artifactKindName artifact.kind
  let backup : Path := ⟨.backup operationId.text, backupFileName⟩
  copyAuthorityFile host artifact.path backup
  let backupIdentity ← Procedure.observe fun d => orError (d.observeAuthorityIdentityToken host backup)
    (.io "authority_migration_backup_identity_failed" "observe preserved authority artifact" backup)
  pure {
    kind := artifact.kind, sourceFileName := artifact.path.name, backupFileName := backupFileName
    detachedFileName := if artifact.kind = .main then none else some ("detached-" ++ artifactKindName artifact.kind)
    sourceIdentity := artifact.identity, backupIdentity := backupIdentity }

def preserveArtifacts (host : Host) (operationId : Uuid) : List SourceArtifact → Switch (List MigrationManifestArtifact)
  | [] => pure []
  | artifact :: rest => do
    let preserved ← preserveArtifact host operationId artifact
    let others ← preserveArtifacts host operationId rest
    pure (preserved :: others)

def prepareSwitch (authority : AuthorityNamespace) (operationId : Uuid) : Switch AuthorityMigrationManifest := do
  let staging : Path := ⟨.data, stagingFileName operationId⟩
  let migratedIdentity ← Procedure.observe fun d => orError (d.observeAuthorityIdentityToken host staging)
    (.io "authority_migration_staging_identity_failed" "observe validated migration staging database" staging)
  let artifacts ← Procedure.observe fun d =>
    if d.backupCollision operationId then
      .error (.operation "authority_migration_backup_collision" "migration backup directory already exists" none)
    else .ok (observeSourceArtifacts host authority d)
  let main ← Procedure.observe fun _ => orError (artifacts.find? (fun artifact => artifact.kind == .main))
    (.operation "authority_migration_source_main_missing" "migration source main database disappeared" none)
  let preserved ← preserveArtifacts host operationId artifacts
  let m : AuthorityMigrationManifest := {
    schemaVersion := 1, operationId := operationId, authorityNamespace := authority
    sourceFileName := mainFileName authority, stagingFileName := stagingFileName operationId
    backupOperationId := operationId, sourceMainIdentity := main.identity, migratedMainIdentity := migratedIdentity
    artifacts := preserved, stage := .prepared }
  change (fun d => some (d.writeManifest m))
    (.io "authority_migration_manifest_write_failed" "write authority migration manifest" manifestPath)
  pure m

def detachSourceSidecar :
    Switch Unit := do
  let source : Path := ⟨.data, artifact.sourceFileName⟩
  match ← observeIdentity host source with
  | none =>
    Procedure.fail (.io "authority_migration_sidecar_revalidation_failed" "revalidate source sidecar before detach" source)
  | some identity =>
    if identity ≠ artifact.sourceIdentity then
      Procedure.fail (.blocked "identity changed" "authority sidecar changed before migration switch")
    else do
      let detached ← detachedPath m artifact
      change (·.rename host source detached)
        (.io "authority_migration_sidecar_detach_failed" "detach original authority sidecar" source)

def detachSourceSidecars : Switch Unit :=
  m.sidecars.forM (detachSourceSidecar host m)

def recordStage (stage : MigrationSwitchStage) (operation : String) : Switch Unit :=
  change (fun d => some (d.writeManifest { m with stage := stage }))
    (.io "authority_migration_manifest_write_failed" operation manifestPath)

def orRestore (p : Switch Unit) : Switch Unit := do
  match ← Procedure.attempt p with
  | .ok () => pure ()
  | .error error => do
    let _ ← Procedure.attempt (restoreOriginalSidecars host m)
    Procedure.fail error

def publishStaging : Switch Unit := do
  match ← Procedure.attempt (change (·.rename host m.staging m.source)
    (.io "authority_migration_publish_failed" "publish migrated authority database" m.source)) with
  | .ok () => pure ()
  | .error error =>
    match ← Procedure.attempt (restoreOriginalSidecars host m) with
    | .ok () => Procedure.fail error
    | .error _ =>
      Procedure.fail (.operation "authority_migration_publish_and_restore_failed"
        "failed to publish migrated authority database; original sidecar restore also failed" none)

def performSwitch : Switch Unit := do
  orRestore host m (detachSourceSidecars host m)
  orRestore host m (recordStage m .sidecarsDetached "record detached authority sidecars")
  publishStaging host m
  recordStage m .published "record published authority database"
  removeManifest "authority_migration_manifest_remove_failed" "remove completed authority migration manifest"

/-- `let _ = std::fs::remove_file(..)`, for the copy and for what SQLite may have left beside it. -/
def removeGeneratedSqliteFiles : Switch Unit :=
  ["", "-wal", "-shm", "-journal"].forM fun suffix =>
    Procedure.act fun d => .ok (d.remove ⟨.data, m.stagingFileName ++ suffix⟩)

def switchAuthority : Switch Unit := do
  match ← Procedure.attempt (performSwitch host m) with
  | .ok () => pure ()
  | .error error => do
    removeGeneratedSqliteFiles m
    Procedure.fail error

end Rovai.Authority
