import ProbeCampaign.Files.Tree
import ProbeCampaign.Main
import ProbeCampaign.Proofs.CommandLine.BuildCorpus
import ProbeCampaign.Proofs.CommandLine.PlanOutputs
import ProbeCampaign.Proofs.Corpus.Builders
import ProbeCampaign.Proofs.Plan.Alignment
import ProbeCampaign.Proofs.Plan.Execution
import ProbeCampaign.Proofs.Plan.Failures
import ProbeCampaign.Proofs.Repeat.Artifact
import ProbeCampaign.Proofs.Repeat.Rounds
import ProbeCampaign.Proofs.Store.Query
import ProbeCampaign.Proofs.Store.Session
import ProbeCampaign.Proofs.TestUrl.Foreign
import ProbeCampaign.Proofs.TestUrl.Normalized
import ProbeCampaign.Proofs.Store.Registry
import ProbeCampaign.Proofs.Corpus.Independence
import ProbeCampaign.Proofs.Plan.Urls
import ProbeCampaign.Proofs.Repeat.Order
import ProbeCampaign.Proofs.TestUrl.Clean
import ProbeCampaign.Proofs.Plan.Cuts
import ProbeCampaign.Proofs.Plan.Words
import ProbeCampaign.Proofs.Corpus.Fresh
import ProbeCampaign.Proofs.Corpus.External
import ProbeCampaign.Proofs.Family.Size
import ProbeCampaign.Proofs.Family.Together
import ProbeCampaign.Proofs.Corpus.Placeholders
import ProbeCampaign.Proofs.ValueList.Rows
import ProbeCampaign.Proofs.ValueList.Detail
import ProbeCampaign.Proofs.Mutation.RandomCase
import ProbeCampaign.Proofs.Config.Saved
