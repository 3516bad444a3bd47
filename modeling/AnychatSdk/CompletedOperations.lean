import AnychatSdk.MessageRequests
import AnychatSdk.AuthRequests
import AnychatSdk.FileManager

/-!
# Operations that complete once

Operations of more than one request call back exactly once, whatever the server
answers and whatever happens to the client in between.  An upload does so if its
file can be read: the exception of a failed read goes to the caller, and neither
callback is called.
-/

namespace AnychatSdk

/-- In every run from every state the operation completes exactly once, with at
most `bound` requests. -/
def Operation.CompletesOnce {σ ε ρ : Type} (operation : Operation σ ε ρ) (bound : Nat) : Prop :=
  ∀ state events,
    (EventRun.exec AsyncRun.step (AsyncRun.start operation state) events).CompletesOnce bound

/-- The operations that may need more than one request complete once, uploads among
them that are given this path.  An upload moreover succeeds only if its three requests
have, and reports its progress when it issues the PUT and when the PUT has succeeded. -/
structure OperationsComplete (messageJson : MessageJson) (authJson : AuthJson)
    (fileJson : FileJson) (files : String → FileRead) (localPath : String) : Prop where
  getHistory : ∀ convId beforeTimestamp limit,
    Operation.CompletesOnce
      (Client.requestHistory messageJson convId beforeTimestamp limit) 2
  ackMessages : ∀ convId messageIds,
    Operation.CompletesOnce (Client.ackMessages messageJson convId messageIds) 2
  recallMessage : ∀ messageId,
    Operation.CompletesOnce (Client.recallMessage messageJson messageId) 1
  deleteMessage : ∀ messageId,
    Operation.CompletesOnce (Client.deleteMessage messageJson messageId) 1
  editMessage : ∀ messageId content,
    Operation.CompletesOnce (Client.editMessage messageJson messageId content) 1
  getDeviceList : Operation.CompletesOnce (ListenedAuthManager.getDeviceList authJson) 2
  logoutDevice : ∀ deviceId,
    Operation.CompletesOnce (ListenedAuthManager.logoutDevice authJson deviceId) 2
  ensureValidToken : Operation.CompletesOnce (ListenedAuthManager.ensureValidToken authJson) 1
  upload : ∀ fileType onProgress,
    Operation.CompletesOnce (FileManager.upload fileJson files localPath fileType onProgress) 3
  uploadClientLog : ∀ onProgress expiresHours,
    Operation.CompletesOnce
      (FileManager.uploadClientLog fileJson files localPath onProgress expiresHours) 3
  upload_shows : ∀ fileType onProgress events,
    FileManager.Shows fileJson files FileManager.uploadKind localPath onProgress
      (EventRun.exec AsyncRun.step
        (AsyncRun.start
          (FileManager.upload fileJson files localPath fileType onProgress) ()) events).log
  uploadClientLog_shows : ∀ onProgress expiresHours events,
    FileManager.Shows fileJson files (FileManager.clientLogKind fileJson) localPath onProgress
      (EventRun.exec AsyncRun.step
        (AsyncRun.start
          (FileManager.uploadClientLog fileJson files localPath onProgress expiresHours) ())
            events).log
  upload_success : ∀ fileType onProgress events info,
    .completed (.ok info) ∈ (EventRun.exec AsyncRun.step
      (AsyncRun.start
        (FileManager.upload fileJson files localPath fileType onProgress) ()) events).log →
      ∃ first token second third data,
        (EventRun.exec AsyncRun.step
          (AsyncRun.start (FileManager.upload fileJson files localPath fileType onProgress) ())
            events).log.filterMap AsyncLogEntry.answer? = [first, second, third] ∧
          FileManager.uploadKind.TokenReceived fileJson first token ∧ PutSucceeded second ∧
          FileManager.uploadKind.Completed fileJson third data ∧
          info = FileManager.uploadKind.result token.fileId data

/-- All of them complete once if the file can be read. -/
theorem operationsComplete_of_readable (messageJson : MessageJson) (authJson : AuthJson)
    (fileJson : FileJson) {files : String → FileRead} {localPath : String}
    (readable : files localPath ≠ .unreadable) :
    OperationsComplete messageJson authJson fileJson files localPath := by
  constructor
  · intro convId beforeTimestamp limit
    exact AsyncRun.completesOnce_exec
      (Client.requestHistory_completes messageJson convId beforeTimestamp limit)
  · intro convId messageIds
    exact AsyncRun.completesOnce_exec (Client.ackMessages_completes messageJson convId messageIds)
  · intro messageId
    exact AsyncRun.completesOnce_exec (Client.recallMessage_completes messageJson messageId)
  · intro messageId
    exact AsyncRun.completesOnce_exec (Client.deleteMessage_completes messageJson messageId)
  · intro messageId content
    exact AsyncRun.completesOnce_exec (Client.editMessage_completes messageJson messageId content)
  · exact AsyncRun.completesOnce_exec (ListenedAuthManager.getDeviceList_completes authJson)
  · intro deviceId
    exact AsyncRun.completesOnce_exec
      (ListenedAuthManager.logoutDevice_completes authJson deviceId)
  · exact AsyncRun.completesOnce_exec (ListenedAuthManager.ensureValidToken_completes authJson)
  · intro fileType onProgress
    exact AsyncRun.completesOnce_exec
      (FileManager.upload_completes fileJson readable fileType onProgress)
  · intro onProgress expiresHours
    exact AsyncRun.completesOnce_exec
      (FileManager.uploadClientLog_completes fileJson readable onProgress expiresHours)
  · exact FileManager.upload_shows fileJson readable
  · exact FileManager.uploadClientLog_shows fileJson readable
  · intro fileType onProgress events info success
    rcases FileManager.upload_shows fileJson readable fileType onProgress events with
      ⟨failure, log⟩ | ⟨fileName, bytes, body, _, shown⟩
    · rw [log] at success
      simp at success
    · exact shown.of_success fileJson FileManager.uploadKind onProgress bytes success

/-- An upload of a file that cannot be read never completes. -/
theorem not_completesOnce_upload_of_unreadable (fileJson : FileJson)
    {files : String → FileRead} {localPath : String}
    (unreadable : files localPath = .unreadable) (fileType : Int32) (onProgress : Bool)
    (bound : Nat) :
    ¬Operation.CompletesOnce (FileManager.upload fileJson files localPath fileType onProgress)
      bound := by
  intro completes
  have once := completes () []
  rw [EventRun.exec_nil, FileManager.start_upload_of_unreadable fileJson files unreadable] at once
  exact absurd (once.completed rfl) (by decide)

/-- Every one of them completes once, for every behaviour of the JSON library and
the file system, exactly if a file that is uploaded can be read once it is open. -/
theorem operationsComplete_iff (messageJson : MessageJson) (authJson : AuthJson)
    (fileJson : FileJson) (files : String → FileRead) (localPath : String) :
    OperationsComplete messageJson authJson fileJson files localPath ↔
      files localPath ≠ .unreadable := by
  constructor
  · intro complete unreadable
    exact not_completesOnce_upload_of_unreadable fileJson unreadable 0 false 3
      (complete.upload 0 false)
  · exact operationsComplete_of_readable messageJson authJson fileJson

/-- The upload of a directory calls back neither way. -/
theorem not_operationsComplete_directory :
    ¬OperationsComplete default default default (fun _ => .unreadable) "/tmp" :=
  fun complete => not_completesOnce_upload_of_unreadable default rfl 0 false 3
    (complete.upload 0 false)

end AnychatSdk
