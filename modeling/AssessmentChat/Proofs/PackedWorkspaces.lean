import AssessmentChat.Proofs.Base64Text
import AssessmentChat.Proofs.RoundTrips
import AssessmentChat.Proofs.WorkspaceSnapshots

namespace AssessmentChat

/-!
# Packed workspaces

The bytes that are sent of a workspace are a text from which its snapshot is read again,
and from the snapshot every file, byte for byte.  Bytes of a file have one text only, so
what is read of a snapshot is what was written.
-/

namespace SnapshotFile

/-- The text of a file is accepted exactly if it is the one that is written for its bytes. -/
theorem decoded_eq_ok
    {file : SnapshotFile}
    {bytes : ByteArray} :
    file.decoded = .ok bytes ↔ file.content = Base64.encode bytes := by
  rw [← Base64.decode_eq_ok, decoded]
  cases Base64.decode file.content <;> simp

end SnapshotFile

namespace Workspace

variable
  {workspace : Workspace}
  {disk : Disk}
  {snapshot : WorkspaceSnapshot}
  {failure : Fault}

theorem package_of_collect
    (collected : workspace.collect disk = .ok snapshot) :
    workspace.package disk = .ok (Wire.write snapshot).toUTF8 := by
  rw [package, collected]
  rfl

theorem package_of_collect_failed
    (failed : workspace.collect disk = .error failure) :
    workspace.package disk = .error failure := by
  rw [package, failed]
  rfl

/-- The bytes of a packed workspace are a text, and its snapshot is read from it. -/
theorem read_of_package
    {bytes : ByteArray}
    (packed : workspace.package disk = .ok bytes) :
    ∃ text snapshot,
      String.fromUTF8? bytes = some text ∧
        Wire.read WorkspaceSnapshot text = .ok snapshot ∧
        workspace.collect disk = .ok snapshot := by
  have roundTrips : Wire.RoundTrips WorkspaceSnapshot :=
    Wire.roundTrips_of_plain fun _ => rfl
  cases collected : workspace.collect disk with
  | error failure =>
      rw [package_of_collect_failed collected] at packed
      cases packed
  | ok snapshot =>
      rw [package_of_collect collected] at packed
      cases packed
      exact ⟨_, snapshot, fromUTF8?_toUTF8 _,
        roundTrips.read_write snapshot trivial, rfl⟩

/-- The files of a snapshot carry the bytes that lie on the disk. -/
theorem decoded_of_collect
    (proper : disk.top.IsProper)
    (limited : workspace.maxFileBytes < UInt64.size)
    (collected : workspace.collect disk = .ok snapshot) :
    ∃ entries,
      disk.readFolder workspace.root = .ok entries ∧
        ∀ file ∈ snapshot.files,
          ∃ trail content,
            (FileTree.folder entries).at? trail = some (.file content) ∧
              file.path = "/".intercalate trail ∧
              file.decoded = .ok content ∧
              content.size = file.size.toNat := by
  cases readable : disk.readFolder workspace.root with
  | error failure =>
      rw [collect_of_unreadable readable] at collected
      cases collected
  | ok entries =>
      refine ⟨entries, rfl, ?_⟩
      intro file member
      obtain ⟨trail, content, eligible, rfl⟩ :=
        (lists_of_collect proper readable collected file).mp member
      have small := Nat.lt_of_le_of_lt eligible.small limited
      exact ⟨trail, content, eligible.present, rfl,
        SnapshotFile.decoded_eq_ok.mpr rfl,
        (UInt64.toNat_ofNat_of_lt small).symm⟩

end Workspace

/--
A readable workspace can be packed if every folder and file that is opened for it has a
path that the system takes, and packing fails only as taking the snapshot does.  From the
bytes that snapshot is read, and from each of its files just the bytes that lie on the
disk, as many as its size says.  Any text of a file is accepted for those bytes alone for
which it is written, so that different texts never stand for the same bytes.
-/
theorem package_carries_workspace
    {workspace : Workspace}
    {disk : Disk}
    (proper : disk.top.IsProper)
    (limited : workspace.maxFileBytes < UInt64.size) :
    (∀ entries,
      disk.readFolder workspace.root = .ok entries →
      (∀ trail,
        (FileTree.folder entries).IsOpened workspace.maxFileBytes trail →
        (workspace.pathTo trail).utf8ByteSize < Disk.pathLimit) →
      ∃ bytes, workspace.package disk = .ok bytes) ∧
    (∀ failure,
      workspace.package disk = .error failure ↔
        workspace.collect disk = .error failure) ∧
    (∀ bytes,
      workspace.package disk = .ok bytes →
      ∃ entries text snapshot,
        disk.readFolder workspace.root = .ok entries ∧
          String.fromUTF8? bytes = some text ∧
          Wire.read WorkspaceSnapshot text = .ok snapshot ∧
          workspace.collect disk = .ok snapshot ∧
          ∀ file ∈ snapshot.files,
            ∃ trail content,
              (FileTree.folder entries).at? trail = some (.file content) ∧
                file.path = "/".intercalate trail ∧
                file.decoded = .ok content ∧
                content.size = file.size.toNat) ∧
    (∀ (file : SnapshotFile) (bytes : ByteArray),
      file.decoded = .ok bytes ↔ file.content = Base64.encode bytes) ∧
    ∀ (file other : SnapshotFile) (bytes : ByteArray),
      file.decoded = .ok bytes →
      other.decoded = .ok bytes →
      file.content = other.content := by
  refine ⟨?_, ?_, ?_, fun _ _ => SnapshotFile.decoded_eq_ok, ?_⟩
  · intro entries readable short
    obtain ⟨files, collected, -⟩ :=
      Workspace.collect_of_short proper readable short
    exact ⟨_, Workspace.package_of_collect collected⟩
  · intro failure
    cases collected : workspace.collect disk with
    | ok snapshot =>
        simp [Workspace.package_of_collect collected]
    | error reason =>
        simp [Workspace.package_of_collect_failed collected]
  · intro bytes packed
    obtain ⟨text, snapshot, isText, read, collected⟩ :=
      Workspace.read_of_package packed
    obtain ⟨entries, readable, carries⟩ :=
      Workspace.decoded_of_collect proper limited collected
    exact ⟨entries, text, snapshot, readable, isText, read, collected,
      carries⟩
  · intro file other bytes decoded otherDecoded
    rw [SnapshotFile.decoded_eq_ok.mp decoded,
      SnapshotFile.decoded_eq_ok.mp otherDecoded]

/-- The small workspace is packed, and its snapshot is read from the bytes. -/
theorem package_of_small_workspace :
    (smallDisk smallEntries).top.IsProper ∧
      smallWorkspace.maxFileBytes < UInt64.size ∧
      ∃ bytes text snapshot,
        smallWorkspace.package (smallDisk smallEntries) = .ok bytes ∧
          String.fromUTF8? bytes = some text ∧
          Wire.read WorkspaceSnapshot text = .ok snapshot ∧
          smallWorkspace.collect (smallDisk smallEntries) = .ok snapshot := by
  have proper := isProper_smallDisk isProper_smallEntries
  have limited : smallWorkspace.maxFileBytes < UInt64.size := by decide
  obtain ⟨succeeds, -, carries, -⟩ :=
    package_carries_workspace proper limited
  obtain ⟨bytes, packed⟩ :=
    succeeds _ (readFolder_ws smallEntries) smallWorkspace_short
  obtain ⟨-, text, snapshot, -, isText, read, collected, -⟩ :=
    carries bytes packed
  exact ⟨proper, limited, bytes, text, snapshot, packed, isText, read,
    collected⟩

end AssessmentChat
