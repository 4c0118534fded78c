import TypeStubs.Main
import TypeStubs.Registry.Payload
import TypeStubs.Scaffold.BuiltIn
import TypeStubs.Service.Answer
import TypeStubs.Proofs.Accessors
import TypeStubs.Proofs.Segments
import TypeStubs.Proofs.Sites
import TypeStubs.Proofs.Work
import TypeStubs.Proofs.Rendering
import TypeStubs.Proofs.Verdict
import TypeStubs.Proofs.OrderFree
import TypeStubs.Proofs.BaseChain
import TypeStubs.Proofs.Selection
import TypeStubs.Proofs.Exactness
import TypeStubs.Proofs.Isolation
import TypeStubs.Proofs.Placing
import TypeStubs.Proofs.Importing
import TypeStubs.Proofs.Requests
import TypeStubs.Proofs.Refusal
import TypeStubs.Proofs.Ancestry
import TypeStubs.Proofs.Universes
import TypeStubs.Proofs.Candidates
import TypeStubs.Proofs.Collecting
import TypeStubs.Proofs.Walk
import TypeStubs.Proofs.Simulation
import TypeStubs.Proofs.Restoring
import TypeStubs.Proofs.Namesakes
import TypeStubs.Proofs.Registering
import TypeStubs.Proofs.Portraits
import TypeStubs.Proofs.Mirror
import TypeStubs.Proofs.Decoding
import TypeStubs.Proofs.Recognition
import TypeStubs.Proofs.Disks
import TypeStubs.Proofs.Locating
import TypeStubs.Proofs.DiskRuns
import TypeStubs.Proofs.OutputDirectory
import TypeStubs.Proofs.Histories
import TypeStubs.Proofs.Readback
import TypeStubs.Proofs.Looking
import TypeStubs.Proofs.Checking
import TypeStubs.Proofs.Renumbering
import TypeStubs.Proofs.Growing
import TypeStubs.Proofs.Relisting
import TypeStubs.Proofs.Binding
import TypeStubs.Proofs.Instances
import TypeStubs.Proofs.ReservedNames
import TypeStubs.Proofs.Inheritance
import TypeStubs.Proofs.TreeCalls
import TypeStubs.Proofs.Clearing
import TypeStubs.Proofs.Sparing
import TypeStubs.Proofs.SharedPlaces
import TypeStubs.Proofs.Freshness
import TypeStubs.Proofs.Opening
import TypeStubs.Proofs.Repairing
import TypeStubs.Proofs.Resolution
import TypeStubs.Proofs.Outline
import TypeStubs.Proofs.TypingImports
import TypeStubs.Proofs.Redeclaring
import TypeStubs.Proofs.Subtyping
import TypeStubs.Proofs.Enumeration
import TypeStubs.Proofs.LetterCase
import TypeStubs.Proofs.Discovery
import TypeStubs.Proofs.Constructing
import TypeStubs.Proofs.Answers
import TypeStubs.Proofs.SettingsFile
