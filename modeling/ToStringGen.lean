import ToStringGen.Command
import ToStringGen.Discovery.Stream
import ToStringGen.Filer.Scripted
import ToStringGen.Log.Switch
import ToStringGen.Main
import ToStringGen.Outlet
import ToStringGen.Proofs.Confinement
import ToStringGen.Proofs.Execution
import ToStringGen.Proofs.Filer.Exchanges
import ToStringGen.Proofs.Filer.Listing
import ToStringGen.Proofs.Filer.Store
import ToStringGen.Proofs.Java.Legality
import ToStringGen.Proofs.Java.Naming
import ToStringGen.Proofs.Java.Source
import ToStringGen.Proofs.Manifest.Offence
import ToStringGen.Proofs.Manifest.Writing
import ToStringGen.Proofs.Preflight
import ToStringGen.Proofs.Processing.Delivery
import ToStringGen.Proofs.Processing.Diagram
import ToStringGen.Proofs.Processing.Independence
import ToStringGen.Proofs.Processing.Passes
import ToStringGen.Proofs.Processing.Pending
import ToStringGen.Proofs.Processing.Preview
import ToStringGen.Proofs.Processing.Repetition
import ToStringGen.Proofs.Processing.Selection
import ToStringGen.Proofs.Rehearsal
import ToStringGen.Proofs.Resolution
import ToStringGen.Workspace
