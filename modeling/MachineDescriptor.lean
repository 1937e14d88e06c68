import MachineDescriptor.Document.Outline
import MachineDescriptor.Log.Session
import MachineDescriptor.Main
import MachineDescriptor.Proofs.Documents
import MachineDescriptor.Proofs.Scripts
import MachineDescriptor.Terminal.Device
import MachineDescriptor.Xml.Script
import MachineDescriptor.Proofs.Overlays
import MachineDescriptor.Proofs.Rendering
import MachineDescriptor.Proofs.Reading
import MachineDescriptor.Proofs.Decoding
import MachineDescriptor.Proofs.Destinations
import MachineDescriptor.Proofs.Handles
import MachineDescriptor.Proofs.Saving
import MachineDescriptor.Proofs.Rejections
import MachineDescriptor.Proofs.Fidelity
import MachineDescriptor.Proofs.Exits
import MachineDescriptor.Proofs.WellFormed
import MachineDescriptor.Proofs.Blame
import MachineDescriptor.Proofs.JsonFiles
import MachineDescriptor.Proofs.LogLines
import MachineDescriptor.Proofs.Addresses
import MachineDescriptor.Proofs.Endings
import MachineDescriptor.Proofs.WholeElements
import MachineDescriptor.Proofs.DriveNames
import MachineDescriptor.Proofs.NetworkRules
import MachineDescriptor.Proofs.BrokenPieces
import MachineDescriptor.Proofs.Confinement
import MachineDescriptor.Proofs.Amounts
import MachineDescriptor.Proofs.Retyping
import MachineDescriptor.Proofs.Respelling
import MachineDescriptor.Proofs.ExitCodes
import MachineDescriptor.Proofs.ErrorLines
import MachineDescriptor.Proofs.Colours
import MachineDescriptor.Proofs.DeviceRecords
import MachineDescriptor.Proofs.Entities
import MachineDescriptor.Proofs.FieldTexts
import MachineDescriptor.Proofs.Merging
import MachineDescriptor.Proofs.Behaviours
import MachineDescriptor.Proofs.Naming
