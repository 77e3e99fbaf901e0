import Adhdev.KeyedTranscript.RejectedCommits

/-! # Where the reader throws

The reader dereferences its meta row and its commit when it builds the view without messages. A
view is built only when both are there. The delta of a commit that is applied in place is built
without that check.
-/

namespace Adhdev.KeyedTranscript.KeyedTranscriptFolder

open AppliedFrame

variable {options : KeyedTranscriptFolderOptions} {hashes : ChatHashes}
  {folder : KeyedTranscriptFolder}

/-! ## Calls that throw -/

section Frames

variable {applied : AppliedFrame} {row : KeyedChatRow} {rows : List KeyedChatRow}

end Frames

/-! ## Commits that throw -/

end Adhdev.KeyedTranscript.KeyedTranscriptFolder
