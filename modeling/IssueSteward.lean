import IssueSteward.Main
import IssueSteward.Proofs.DryRun
import IssueSteward.Proofs.Once
import IssueSteward.Proofs.ReadBeforeWrite
import IssueSteward.Proofs.Records
import IssueSteward.Proofs.Refinement
import IssueSteward.Proofs.ThreadContents
import IssueSteward.Proofs.Writing
import IssueSteward.Proofs.Concurrency
import IssueSteward.Proofs.Requirement
import IssueSteward.Proofs.UnassignmentRule
import IssueSteward.Proofs.ReminderRule
import IssueSteward.Proofs.Stages
import IssueSteward.Proofs.Listing
import IssueSteward.Proofs.CharacterClasses
import IssueSteward.Proofs.SoughtPatterns
import IssueSteward.Proofs.OwnComments
import IssueSteward.Proofs.PullNumbers
import IssueSteward.Proofs.LetterCase
import IssueSteward.Proofs.Streaming
import IssueSteward.Proofs.Lexemes
import IssueSteward.Proofs.StreamedShapes
import IssueSteward.Proofs.Truncation
import IssueSteward.Proofs.Skimming
import IssueSteward.Proofs.Rereading
import IssueSteward.Proofs.AcceptedText
import IssueSteward.Proofs.KnownMembers
import IssueSteward.Proofs.Edits
import IssueSteward.Proofs.FieldOnce
import IssueSteward.Proofs.Authorization
import IssueSteward.Proofs.StepLogs
import IssueSteward.Proofs.GivenWords
import IssueSteward.Proofs.CarriedPull
import IssueSteward.Proofs.RepositoryNames
